import DBClaw.Library.Runs
import DBClaw.Library.Text
import Mathlib

/-! # The router
A page that is opened may return a function that cleans up after it. `_handleRoute` waits for the page between the call
of the old clean-up and the storing of the new one, and has one place for it. `cleanups_exact_iff` says that the
clean-up is exact in the runs in which no page is left before it has returned its own. -/

namespace DBClaw.Pages

open Runs

/-! ## Routes -/

/-- The page of a hash: what stands before the query and the parameters. -/
def pageOf (hash : Text) : Text :=
  let hash := if hash = [] then "dashboard".toList else hash
  (hash.takeWhile (· ≠ '?')).takeWhile (· ≠ '/')

/-- `'login'`. -/
def loginPage : Text := "login".toList

/-- `'sqlConsole'`. -/
def sqlConsolePage : Text := "sqlConsole".toList

/-- `'datasources'`. -/
def datasourcesPage : Text := "datasources".toList

/-- What `_handleRoute` reads of the store: whether there is a current user, and the id of the current datasource. -/
structure Store where
  hasCurrentUser : Bool
  currentDatasource : Option Text

/-- The hash of a datasource's SQL console. -/
def consoleHash (datasource : Text) : Text :=
  "instance-detail?datasource=".toList ++ datasource ++ "&tab=sqlConsole".toList

/-- Where `_handleRoute` goes instead of opening the page of a hash. -/
def redirect (store : Store) (hash : Text) : Option Text :=
  if pageOf hash ≠ loginPage ∧ store.hasCurrentUser = false then some loginPage
  else if pageOf hash = sqlConsolePage then some ((store.currentDatasource.map consoleHash).getD datasourcesPage)
  else none

/-! ## The router -/

/-- The router, and what has become of the pages. A page is known by its number among those that were opened. -/
structure Router where
  hash : Text
  /-- The changes of the hash that are still to be handled. -/
  hashChanges : ℕ := 0
  /-- The pages that were opened, one after another. -/
  pages : List Text := []
  /-- The pages whose handlers have not returned yet. -/
  running : List ℕ := []
  /-- The pages whose handlers have returned a clean-up function. -/
  returned : List ℕ := []
  /-- The pages whose clean-up functions were called, one after another. -/
  called : List ℕ := []
  currentCleanup : Option ℕ := none

/-- What happens: the hash is set; the browser reports a change of it; the current route is refreshed; or the handler
of a page returns, with a clean-up function or without one. -/
inductive Event
  | setHash (hash : Text)
  | hashChange (store : Store)
  | refreshCurrentRoute (store : Store)
  | handlerReturns (page : ℕ) (cleanup : Bool)

/-- `window.location.hash = hash`. -/
def Router.setHash (s : Router) (hash : Text) : Router :=
  if hash = s.hash then s else { s with hash := hash, hashChanges := s.hashChanges + 1 }

/-- The clean-up of the previous page. -/
def Router.cleanUp (s : Router) : Router :=
  match s.currentCleanup with
  | some page => { s with called := s.called ++ [page], currentCleanup := none }
  | none => s

variable (routes : Text → Bool)

/-- A page is opened; its handler is called if there is one. -/
def Router.openPage (s : Router) (page : Text) : Router :=
  { s with
    pages := s.pages ++ [page]
    running := if routes page then s.running ++ [s.pages.length] else s.running }

/-- **`_handleRoute`**, up to the handler. -/
def Router.handleRoute (s : Router) (store : Store) : Router :=
  match redirect store s.hash with
  | some hash => s.setHash hash
  | none => s.cleanUp.openPage routes (pageOf s.hash)

/-- **`_handleRoute`**, once the handler has returned. -/
def Router.handlerReturns (s : Router) (page : ℕ) (cleanup : Bool) : Router :=
  if cleanup then
    { s with
      running := s.running.erase page
      returned := s.returned ++ [page]
      currentCleanup := some page }
  else { s with running := s.running.erase page }

/-- An event happens. -/
def Router.step (s : Router) : Event → Option Router
  | .setHash hash => some (s.setHash hash)
  | .hashChange store =>
    if 0 < s.hashChanges then some (({ s with hashChanges := s.hashChanges - 1 } : Router).handleRoute routes store)
    else none
  | .refreshCurrentRoute store => some (s.handleRoute routes store)
  | .handlerReturns page cleanup => if page ∈ s.running then some (s.handlerReturns page cleanup) else none

/-! ## Exact clean-up -/

/-- The page is the one that was opened last. -/
def Router.IsOpen (s : Router) (page : ℕ) : Prop := page + 1 = s.pages.length

/-- **Each clean-up function is called once, when its page is left**: of the functions that were returned, just those of
pages that are no longer open were called, and none twice. -/
def Router.CalledOnce (s : Router) : Prop :=
  s.called.Nodup ∧ ∀ page ∈ s.returned, page ∈ s.called ↔ ¬ s.IsOpen page

/-- **Nothing is left behind**: when no handler is running and all changes of the hash have been handled, a page whose
clean-up function was not called is that of the current hash. -/
def Router.NothingLeft (s : Router) : Prop :=
  s.running = [] → s.hashChanges = 0 → ∀ page ∈ s.returned, page ∉ s.called → s.pages[page]? = some (pageOf s.hash)

/-- The clean-up is exact. -/
def Router.Exact (s : Router) : Prop := s.CalledOnce ∧ s.NothingLeft

/-- **A page stays open until its handler has returned a clean-up function.** -/
def StaysOpen (s : Router) : Event → Prop
  | .handlerReturns page true => s.IsOpen page
  | _ => True

/-- What the router keeps while each clean-up function is called once. -/
structure Router.Tidy (s : Router) : Prop where
  once : s.CalledOnce
  cleanup : ∀ page, s.currentCleanup = some page ↔ page ∈ s.returned ∧ page ∉ s.called
  running : ∀ page ∈ s.running, page < s.pages.length ∧ page ∉ s.returned
  nodup : s.running.Nodup
  returned : ∀ page ∈ s.returned, page < s.pages.length
  called : ∀ page ∈ s.called, page ∈ s.returned

/-- The page that is open is that of the hash, once all changes of it have been handled. -/
def Router.Shows (s : Router) : Prop := s.hashChanges = 0 → ∀ page ∈ s.pages.getLast?, page = pageOf s.hash

variable {routes} {s t : Router}

/-- **A page that was not cleaned up is open**, and so is that of the hash. -/
theorem Router.CalledOnce.nothingLeft (h : s.CalledOnce) (hshows : s.Shows) : s.NothingLeft := by
  intro _ hzero page hpage huncalled
  have hopen : page + 1 = s.pages.length := by
    by_contra hleft
    exact huncalled ((h.2 page hpage).mpr hleft)
  have hlast : s.pages[page]? = s.pages.getLast? := by
    rw [List.getLast?_eq_getElem?, ← hopen, Nat.add_sub_cancel]
  obtain ⟨name, hname⟩ : ∃ name, s.pages[page]? = some name := ⟨_, List.getElem?_eq_getElem (by omega)⟩
  rw [hname]
  rw [hlast] at hname
  exact congrArg some (hshows hzero name hname)

/-! ## Steps -/

/-- A redirection goes elsewhere. -/
theorem redirect_ne {store : Store} {hash target : Text} (h : redirect store hash = some target) : target ≠ hash := by
  rintro rfl
  unfold redirect at h
  split_ifs at h with huser hconsole
  · have heq := Option.some.inj h
    rw [← heq] at huser
    exact huser.1 rfl
  · rw [← Option.some.inj h] at hconsole
    cases hdatasource : store.currentDatasource with
    | none =>
      rw [hdatasource] at hconsole
      exact absurd hconsole (by decide)
    | some datasource =>
      rw [hdatasource] at hconsole
      have hpage : pageOf (consoleHash datasource) = "instance-detail".toList := rfl
      rw [Option.map_some, Option.getD_some, hpage] at hconsole
      exact absurd hconsole (by decide)

theorem setHash_of_ne {hash : Text} (h : hash ≠ s.hash) :
    s.setHash hash = { s with hash := hash, hashChanges := s.hashChanges + 1 } := if_neg h

theorem Router.Tidy.setHash (h : s.Tidy) (hash : Text) : (s.setHash hash).Tidy := by
  unfold Router.setHash
  split
  · exact h
  · exact ⟨h.once, h.cleanup, h.running, h.nodup, h.returned, h.called⟩

theorem Router.Shows.setHash (h : s.Shows) (hash : Text) : (s.setHash hash).Shows := by
  unfold Router.setHash
  split
  · exact h
  · exact fun hzero => absurd hzero (Nat.succ_ne_zero _)

/-- A page that is left is cleaned up. -/
theorem Router.Tidy.mem_called_cleanUp (h : s.Tidy) {page : ℕ} (hpage : page ∈ s.returned) : page ∈ s.cleanUp.called := by
  unfold Router.cleanUp
  cases hslot : s.currentCleanup with
  | none =>
    by_contra huncalled
    have hsome := (h.cleanup page).mpr ⟨hpage, huncalled⟩
    rw [hslot] at hsome
    cases hsome
  | some current =>
    by_cases hcalled : page ∈ s.called
    · exact List.mem_append_left _ hcalled
    · have hsame := (h.cleanup page).mpr ⟨hpage, hcalled⟩
      rw [hslot] at hsame
      rw [Option.some.inj hsame]
      exact List.mem_append_right _ List.mem_cons_self

theorem Router.cleanUp_fields (s : Router) : s.cleanUp.pages = s.pages ∧ s.cleanUp.running = s.running ∧
    s.cleanUp.returned = s.returned ∧ s.cleanUp.hash = s.hash ∧ s.cleanUp.currentCleanup = none := by
  unfold Router.cleanUp
  cases hslot : s.currentCleanup with
  | none => exact ⟨rfl, rfl, rfl, rfl, hslot⟩
  | some current => exact ⟨rfl, rfl, rfl, rfl, rfl⟩

theorem Router.Tidy.called_cleanUp (h : s.Tidy) : s.cleanUp.called.Nodup ∧ ∀ page ∈ s.cleanUp.called, page ∈ s.returned := by
  unfold Router.cleanUp
  cases hslot : s.currentCleanup with
  | none => exact ⟨h.once.1, h.called⟩
  | some current =>
    obtain ⟨hreturned, hnew⟩ := (h.cleanup current).mp hslot
    constructor
    · exact h.once.1.append (List.nodup_singleton current) (List.disjoint_singleton.mpr hnew)
    · intro page hpage
      rcases List.mem_append.mp hpage with hpage | hpage
      · exact h.called page hpage
      · rw [List.mem_singleton.mp hpage]
        exact hreturned

/-- **Opening a page does no harm**: the one that was open is cleaned up. -/
theorem Router.Tidy.openPage (h : s.Tidy) (name : Text) : (s.cleanUp.openPage routes name).Tidy := by
  obtain ⟨hpages, hrunning, hreturned, -, hslot⟩ := s.cleanUp_fields
  obtain ⟨hnodup, hsubset⟩ := h.called_cleanUp
  have hlength : (s.pages ++ [name]).length = s.pages.length + 1 := by rw [List.length_append, List.length_singleton]
  have hcalled : ∀ page ∈ s.returned, page ∈ s.cleanUp.called := fun page hpage => h.mem_called_cleanUp hpage
  have hleft : ∀ page ∈ s.returned, page + 1 ≠ (s.pages ++ [name]).length := by
    intro page hpage
    have hlt := h.returned page hpage
    omega
  unfold Router.openPage
  rw [hpages, hrunning]
  refine ⟨⟨hnodup, ?_⟩, ?_, ?_, ?_, ?_, ?_⟩
  · intro page hpage
    rw [hreturned] at hpage
    exact ⟨fun _ => hleft page hpage, fun _ => hcalled page hpage⟩
  · intro page
    dsimp only
    rw [hslot, hreturned]
    constructor
    · intro heq
      cases heq
    · intro hand
      exact absurd (hcalled page hand.1) hand.2
  · intro page hpage
    have hpage : page < s.pages.length + 1 ∧ page ∉ s.returned := by
      dsimp only at hpage
      split at hpage
      · rcases List.mem_append.mp hpage with hpage | hpage
        · exact ⟨Nat.lt_succ_of_lt (h.running page hpage).1, (h.running page hpage).2⟩
        · rw [List.mem_singleton.mp hpage]
          exact ⟨Nat.lt_succ_self _, fun hmem => lt_irrefl _ (h.returned _ hmem)⟩
      · exact ⟨Nat.lt_succ_of_lt (h.running page hpage).1, (h.running page hpage).2⟩
    rw [hreturned, hlength]
    exact hpage
  · dsimp only
    split
    · refine h.nodup.append (List.nodup_singleton _) (List.disjoint_singleton.mpr fun hmem => ?_)
      exact lt_irrefl _ (h.running _ hmem).1
    · exact h.nodup
  · intro page hpage
    rw [hreturned] at hpage
    rw [hlength]
    exact Nat.lt_succ_of_lt (h.returned page hpage)
  · intro page hpage
    rw [hreturned]
    exact hsubset page hpage

/-- **A route is handled without harm**: the page of the hash is opened, or the hash is set to another one. -/
theorem Router.Tidy.handleRoute (h : s.Tidy) (store : Store) :
    (s.handleRoute routes store).Tidy ∧ (s.handleRoute routes store).Shows := by
  unfold Router.handleRoute
  cases hredirect : redirect store s.hash with
  | some hash =>
    refine ⟨h.setHash hash, ?_⟩
    dsimp only
    rw [setHash_of_ne (redirect_ne hredirect)]
    exact fun hzero => absurd hzero (Nat.succ_ne_zero _)
  | none =>
    refine ⟨h.openPage (pageOf s.hash), fun _ page hpage => ?_⟩
    have hhash : (s.cleanUp.openPage routes (pageOf s.hash)).hash = s.hash := s.cleanUp_fields.2.2.2.1
    rw [hhash]
    rw [Router.openPage, List.getLast?_concat, Option.mem_some_iff] at hpage
    exact hpage.symm

/-- **A handler returns without harm**, if it returns no clean-up function or its page is open. -/
theorem Router.Tidy.handlerReturns (h : s.Tidy) {page : ℕ} (hpage : page ∈ s.running) {cleanup : Bool}
    (hopen : cleanup = true → s.IsOpen page) : (s.handlerReturns page cleanup).Tidy := by
  have hrunning : ∀ other ∈ s.running.erase page, other < s.pages.length ∧ other ∉ s.returned ∧ other ≠ page := by
    intro other hother
    obtain ⟨hne, hmem⟩ := h.nodup.mem_erase_iff.mp hother
    exact ⟨(h.running other hmem).1, (h.running other hmem).2, hne⟩
  unfold Router.handlerReturns
  split
  · rename_i hcleanup
    have hlast : page + 1 = s.pages.length := hopen hcleanup
    obtain ⟨hlt, hnew⟩ := h.running page hpage
    have huncalled : page ∉ s.called := fun hmem => hnew (h.called page hmem)
    -- all others were called, since the page is open
    have hothers : ∀ other ∈ s.returned, other ∈ s.called := by
      intro other hother
      refine (h.once.2 other hother).mpr fun hsame => hnew ?_
      have heq : other = page := by
        have hother' : other + 1 = s.pages.length := hsame
        omega
      exact heq ▸ hother
    refine ⟨⟨h.once.1, ?_⟩, ?_, ?_, h.nodup.erase page, ?_, ?_⟩
    · intro other hother
      rcases List.mem_append.mp hother with hother | hother
      · exact h.once.2 other hother
      · rw [List.mem_singleton.mp hother]
        exact ⟨fun hmem => absurd hmem huncalled, fun hleft => absurd hlast hleft⟩
    · intro other
      rw [Option.some_inj, List.mem_append, List.mem_singleton]
      constructor
      · rintro rfl
        exact ⟨.inr rfl, huncalled⟩
      · rintro ⟨hother | rfl, hnone⟩
        · exact absurd (hothers other hother) hnone
        · rfl
    · intro other hother
      obtain ⟨hlt', hnew', hne⟩ := hrunning other hother
      refine ⟨hlt', fun hmem => ?_⟩
      rcases List.mem_append.mp hmem with hmem | hmem
      · exact hnew' hmem
      · exact hne (List.mem_singleton.mp hmem)
    · intro other hother
      rcases List.mem_append.mp hother with hother | hother
      · exact h.returned other hother
      · rw [List.mem_singleton.mp hother]
        exact hlt
    · exact fun other hother => List.mem_append_left _ (h.called other hother)
  · exact ⟨h.once, h.cleanup, fun other hother => ⟨(hrunning other hother).1, (hrunning other hother).2.1⟩,
      h.nodup.erase page, h.returned, h.called⟩

/-- **A step leads to an exact clean-up just if the page stays open.** -/
theorem exact_iff_of_step (h : s.Tidy ∧ s.Shows) {e : Event} (hstep : s.step routes e = some t) :
    t.Exact ↔ StaysOpen s e := by
  obtain ⟨htidy, hshows⟩ := h
  cases e with
  | setHash hash =>
    obtain rfl := Option.some.inj hstep
    have hkept := htidy.setHash hash
    exact ⟨fun _ => trivial, fun _ => ⟨hkept.once, hkept.once.nothingLeft (hshows.setHash hash)⟩⟩
  | hashChange store =>
    rw [Router.step] at hstep
    split at hstep
    · obtain rfl := Option.some.inj hstep
      have hbefore : ({ s with hashChanges := s.hashChanges - 1 } : Router).Tidy :=
        ⟨htidy.once, htidy.cleanup, htidy.running, htidy.nodup, htidy.returned, htidy.called⟩
      obtain ⟨hkept, hshown⟩ := @Router.Tidy.handleRoute routes _ hbefore store
      exact ⟨fun _ => trivial, fun _ => ⟨hkept.once, hkept.once.nothingLeft hshown⟩⟩
    · cases hstep
  | refreshCurrentRoute store =>
    obtain rfl := Option.some.inj hstep
    obtain ⟨hkept, hshown⟩ := @Router.Tidy.handleRoute routes _ htidy store
    exact ⟨fun _ => trivial, fun _ => ⟨hkept.once, hkept.once.nothingLeft hshown⟩⟩
  | handlerReturns page cleanup =>
    rw [Router.step] at hstep
    split at hstep
    · rename_i hpage
      obtain rfl := Option.some.inj hstep
      have hkept (hopen : cleanup = true → s.IsOpen page) : (s.handlerReturns page cleanup).Exact := by
        have htidy' := htidy.handlerReturns hpage hopen
        refine ⟨htidy'.once, htidy'.once.nothingLeft ?_⟩
        unfold Router.handlerReturns
        split <;> exact hshows
      cases cleanup with
      | false => exact ⟨fun _ => trivial, fun _ => hkept fun hfalse => by cases hfalse⟩
      | true =>
        refine ⟨fun hexact => ?_, fun hopen => hkept fun _ => hopen⟩
        -- the function was just returned, and has not been called
        by_contra hleft
        have hmem : page ∈ (s.handlerReturns page true).returned := List.mem_append_right _ List.mem_cons_self
        have hcalled : page ∈ s.called := (hexact.1.2 page hmem).mpr hleft
        exact (htidy.running page hpage).2 (htidy.called page hcalled)
    · cases hstep

theorem keeps_of_step (h : s.Tidy ∧ s.Shows) {e : Event} (hstep : s.step routes e = some t) (hopen : StaysOpen s e) :
    t.Tidy ∧ t.Shows := by
  obtain ⟨htidy, hshows⟩ := h
  cases e with
  | setHash hash =>
    obtain rfl := Option.some.inj hstep
    exact ⟨htidy.setHash hash, hshows.setHash hash⟩
  | hashChange store =>
    rw [Router.step] at hstep
    split at hstep
    · obtain rfl := Option.some.inj hstep
      have hbefore : ({ s with hashChanges := s.hashChanges - 1 } : Router).Tidy :=
        ⟨htidy.once, htidy.cleanup, htidy.running, htidy.nodup, htidy.returned, htidy.called⟩
      exact hbefore.handleRoute store
    · cases hstep
  | refreshCurrentRoute store =>
    obtain rfl := Option.some.inj hstep
    exact htidy.handleRoute store
  | handlerReturns page cleanup =>
    rw [Router.step] at hstep
    split at hstep
    · rename_i hpage
      obtain rfl := Option.some.inj hstep
      refine ⟨htidy.handlerReturns hpage fun hcleanup => ?_, ?_⟩
      · subst hcleanup
        exact hopen
      · unfold Router.handlerReturns
        split <;> exact hshows
    · cases hstep

/-! ## Runs -/

/-- The router before `init`. -/
def Router.initial (hash : Text) : Router where
  hash := hash

/-- **The clean-up is exact in just the runs in which every page stays open until its handler has returned its clean-up
function.** -/
theorem cleanups_exact_iff (routes : Text → Bool) (hash : Text) (events : List Event) (t : Router) :
    Run (Router.step routes) (fun s e => ∃ t ∈ s.step routes e, t.Exact) (Router.initial hash) events t ↔
      Run (Router.step routes) StaysOpen (Router.initial hash) events t := by
  have hinit : (Router.initial hash).Tidy ∧ (Router.initial hash).Shows := by
    refine ⟨⟨⟨List.nodup_nil, List.forall_mem_nil _⟩, fun page => ?_, List.forall_mem_nil _, List.nodup_nil,
      List.forall_mem_nil _, List.forall_mem_nil _⟩, fun _ page hpage => ?_⟩
    · constructor
      · intro heq
        cases heq
      · rintro ⟨hmem, -⟩
        cases hmem
    · cases hpage
  refine Run.leadsTo_iff (I := fun s => s.Tidy ∧ s.Shows) ?_ ?_ hinit
  · exact fun s e t hs hstep => exact_iff_of_step hs hstep
  · exact fun s e t hs hstep hexact => keeps_of_step hs hstep ((exact_iff_of_step hs hstep).mp hexact)

/-! ## A slow page -/

/-- A user who is logged in. -/
def loggedIn : Store where
  hasCurrentUser := true
  currentDatasource := none

/-- A slow page is opened and left for a quick one, which returns its clean-up function first. -/
def slowPageEvents : List Event :=
  [.refreshCurrentRoute loggedIn, .setHash "hosts".toList, .hashChange loggedIn, .handlerReturns 1 true,
    .handlerReturns 0 true]

/-- **The page that was left replaces the clean-up of the one that is open**: no handler is running, and the first page
has not been cleaned up. -/
theorem slowPage_not_exact :
    let s := Router.initial "diagnosis".toList
    let t := (exec (Router.step fun _ => true) Always s slowPageEvents).getD s
    Run (Router.step fun _ => true) Always s slowPageEvents t ∧ t.running = [] ∧ t.hashChanges = 0 ∧
      t.currentCleanup = some 0 ∧ ¬ t.Exact := by
  intro s t
  have hrun : (exec (Router.step fun _ => true) Always s slowPageEvents).isSome := by with_unfolding_all decide
  have ht : t.pages = ["diagnosis".toList, "hosts".toList] ∧ t.returned = [1, 0] ∧ t.called = [] ∧
      t.currentCleanup = some 0 ∧ t.running = [] ∧ t.hashChanges = 0 := by with_unfolding_all decide
  obtain ⟨hpages, hreturned, hcalled, hslot, hrunning, hchanges⟩ := ht
  refine ⟨Run.of_isSome hrun, hrunning, hchanges, hslot, fun hexact => ?_⟩
  have hfirst : (0 : ℕ) ∈ t.called := by
    refine (hexact.1.2 0 (by rw [hreturned]; decide)).mpr fun hopen => ?_
    rw [Router.IsOpen, hpages] at hopen
    exact absurd hopen (by decide)
  rw [hcalled] at hfirst
  cases hfirst

end DBClaw.Pages
