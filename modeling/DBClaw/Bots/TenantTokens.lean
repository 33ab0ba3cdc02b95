import DBClaw.Library.Runs
import DBClaw.Library.Text
import Mathlib.Data.Rat.Defs
import Mathlib.Algebra.Order.Ring.Rat
import Mathlib.Tactic.Linarith

/-! # Tenant tokens
`FeishuService` fetches a `tenant_access_token` for an application and keeps it in one place, whoever
asks for which application. It is kept for the announced lifetime less a minute, but for a minute at
least. `tokens_iff` says which requests go out with the wrong token, or with one that has expired. -/

namespace DBClaw.Bots.TenantTokens

open Runs

/-- An application's `(app_id, app_secret)`. -/
structure App where
  appId : Text
  appSecret : Text
  deriving DecidableEq, Repr

/-- The body of Feishu's answer. -/
structure TokenAnswer where
  code : Option ℤ := none
  tenantAccessToken : Option Text := none
  expire : Option ℕ := none
  deriving DecidableEq, Repr

/-- A token, and what Feishu knows of it: the pair that it was issued for, when, and for how many
seconds. The code sees the text and, when it receives it, the lifetime. -/
structure Token where
  text : Text
  app : App
  issuedAt : ℚ
  lifetime : ℕ
  deriving DecidableEq, Repr

/-- The answer has a token; otherwise the call raises. -/
def TokenAnswer.token (answer : TokenAnswer) (app : App) (issuedAt : ℚ) : Option Token :=
  if answer.code ≠ some 0 then none
  else (answer.tenantAccessToken.filter (! ·.isEmpty)).map fun text =>
    { text := text, app := app, issuedAt := issuedAt, lifetime := answer.expire.getD 7200 }

/-- **`FeishuService`**. -/
structure FeishuService where
  tenantToken : Option Token := none
  tenantTokenExpireAt : ℚ := 0
  deriving DecidableEq, Repr

/-- The token that a call returns without asking Feishu. -/
def FeishuService.cached (service : FeishuService) (now : ℚ) : Option Token :=
  if now < service.tenantTokenExpireAt then service.tenantToken else none

/-- A token is kept, fetched by a call of this time. -/
def FeishuService.keep (token : Token) (now : ℚ) : FeishuService where
  tenantToken := some token
  tenantTokenExpireAt := now + max ((token.lifetime : ℚ) - 60) 60

/-- Who calls `get_tenant_access_token`. -/
inductive Caller
  /-- The test of an integration, which uses the token for nothing. -/
  | testIntegration
  | postMessage
  deriving DecidableEq, Repr

/-- A call that waits for Feishu, maybe with an answer under way and when that was given. -/
structure Fetch where
  caller : Caller
  app : App
  now : ℚ
  answer : Option (TokenAnswer × ℚ) := none
  deriving DecidableEq, Repr

/-- A request with its token. -/
structure Request where
  app : App
  token : Token
  builtAt : ℚ
  deriving DecidableEq, Repr

/-- The service, the calls that wait, and for the record the requests that were built. -/
structure World where
  service : FeishuService := {}
  clock : ℚ
  fetches : ℕ → Option Fetch := fun _ => none
  requests : List Request := []

/-- What happens. -/
inductive Event
  | call (i : ℕ) (caller : Caller) (app : App)
  /-- Feishu answers a call. -/
  | answer (i : ℕ) (answer : TokenAnswer)
  /-- The answer arrives. -/
  | receive (i : ℕ)
  /-- The call fails or is cancelled while it waits. -/
  | fail (i : ℕ)
  deriving DecidableEq, Repr

/-- The requests that a call with this token builds. -/
def Caller.request (caller : Caller) (app : App) (token : Token) (now : ℚ) : List Request :=
  match caller with
  | .testIntegration => []
  | .postMessage => [{ app := app, token := token, builtAt := now }]

/-- **`get_tenant_access_token`** up to its first wait. -/
def World.call (s : World) (i : ℕ) (caller : Caller) (app : App) (now : ℚ) : World :=
  match s.service.cached now with
  | some token => { s with clock := now, requests := caller.request app token now ++ s.requests }
  | none =>
    { s with
      clock := now
      fetches := Function.update s.fetches i (some { caller := caller, app := app, now := now }) }

/-- The rest of it, with an answer. -/
def World.receive (s : World) (i : ℕ) (fetch : Fetch) (token : Option Token) (now : ℚ) : World :=
  match token with
  | none => { s with clock := now, fetches := Function.update s.fetches i none }
  | some token =>
    { service := .keep token fetch.now
      clock := now
      fetches := Function.update s.fetches i none
      requests := fetch.caller.request fetch.app token now ++ s.requests }

/-- **One step**, at a time that is not before the last one. -/
def World.step (s : World) (label : Event × ℚ) : Option World :=
  if label.2 < s.clock then none
  else match label.1 with
    | .call i caller app => if (s.fetches i).isSome then none else some (s.call i caller app label.2)
    | .answer i answer =>
      match s.fetches i with
      | some fetch =>
        if fetch.answer.isSome then none
        else some { s with
          clock := label.2
          fetches := Function.update s.fetches i (some { fetch with answer := some (answer, label.2) }) }
      | none => none
    | .receive i =>
      match s.fetches i with
      | some fetch =>
        fetch.answer.map fun answer =>
          s.receive i fetch (answer.1.token fetch.app answer.2) label.2
      | none => none
    | .fail i =>
      if (s.fetches i).isSome then
        some { s with clock := label.2, fetches := Function.update s.fetches i none }
      else none

/-! ## The property and the condition -/

/-- **The token belongs to the application and has not expired.** -/
def Request.Proper (request : Request) : Prop :=
  request.token.app = request.app ∧
    request.builtAt < request.token.issuedAt + request.token.lifetime

/-- Every request that was built is proper. -/
def World.Proper (s : World) : Prop := ∀ request ∈ s.requests, request.Proper

/-- **What a message relies on**: a token that is kept was fetched for the message's application, and if
its lifetime is under a minute it has not expired; and an answer takes less than the lifetime of the
token in it. -/
def Reliable (s : World) (label : Event × ℚ) : Prop :=
  match label.1 with
  | .call _ .postMessage app =>
    ∀ token ∈ s.service.cached label.2, token.app = app ∧
      (token.lifetime < 60 → label.2 < token.issuedAt + token.lifetime)
  | .receive i =>
    ∀ fetch ∈ s.fetches i, fetch.caller = .postMessage → ∀ answer ∈ fetch.answer,
      ∀ token ∈ answer.1.token fetch.app answer.2, label.2 - token.issuedAt < token.lifetime
  | _ => True

/-! ## The invariant -/

/-- A call started before its answer was given, and that was before now. -/
def Fetch.Timed (clock : ℚ) (fetch : Fetch) : Prop :=
  fetch.now ≤ clock ∧ ∀ answer ∈ fetch.answer, fetch.now ≤ answer.2 ∧ answer.2 ≤ clock

/-- **A token with a lifetime of a minute is not kept beyond it.** -/
structure World.Sound (s : World) : Prop where
  fetches : ∀ i, ∀ fetch ∈ s.fetches i, fetch.Timed s.clock
  kept : ∀ token ∈ s.service.tenantToken,
    s.service.tenantTokenExpireAt ≤ token.issuedAt + max ((token.lifetime : ℚ) - 60) 60

theorem Fetch.Timed.mono {fetch : Fetch} {clock clock' : ℚ} (h : fetch.Timed clock)
    (hle : clock ≤ clock') : fetch.Timed clock' := by
  refine ⟨h.1.trans hle, fun answer hanswer => ?_⟩
  obtain ⟨hafter, hbefore⟩ := h.2 answer hanswer
  exact ⟨hafter, hbefore.trans hle⟩

theorem TokenAnswer.of_token {answer : TokenAnswer} {app : App} {issuedAt : ℚ} {token : Token}
    (h : answer.token app issuedAt = some token) : token.app = app ∧ token.issuedAt = issuedAt := by
  unfold TokenAnswer.token at h
  split at h
  · cases h
  · obtain ⟨text, -, rfl⟩ := Option.map_eq_some_iff.mp h
    exact ⟨rfl, rfl⟩

/-- A cached token with a lifetime of a minute or more has not expired. -/
theorem World.Sound.fresh {s : World} (h : s.Sound) {now : ℚ} {token : Token}
    (hcached : token ∈ s.service.cached now) (hlong : 60 ≤ token.lifetime) :
    now < token.issuedAt + token.lifetime := by
  rw [Option.mem_def, FeishuService.cached] at hcached
  split at hcached
  · rename_i hnow
    have hkept := h.kept token hcached
    have hlifetime : (60 : ℚ) ≤ token.lifetime := by exact_mod_cast hlong
    have hmax : max ((token.lifetime : ℚ) - 60) 60 ≤ token.lifetime := max_le (by linarith) hlifetime
    linarith
  · cases hcached

/-- The calls that wait, once one of them has been replaced. -/
theorem timed_update {fetches : ℕ → Option Fetch} {clock clock' : ℚ} {i : ℕ} {fetch : Option Fetch}
    (h : ∀ j, ∀ f ∈ fetches j, Fetch.Timed clock f) (hle : clock ≤ clock')
    (hfetch : ∀ f ∈ fetch, Fetch.Timed clock' f) :
    ∀ j, ∀ f ∈ Function.update fetches i fetch j, Fetch.Timed clock' f := by
  intro j f hf
  obtain ⟨-, hnew⟩ | ⟨-, hold⟩ := update_eq_some hf
  · exact hfetch f hnew
  · exact (h j f hold).mono hle

/-- **Every step keeps the calls and the kept token timed.** -/
theorem World.Sound.step {s t : World} {label : Event × ℚ} (h : s.Sound) (hstep : s.step label = some t) :
    t.Sound := by
  obtain ⟨event, now⟩ := label
  unfold World.step at hstep
  split at hstep
  · cases hstep
  rename_i hclock
  have hle : s.clock ≤ now := not_lt.mp hclock
  have hcalls : ∀ j, ∀ f ∈ s.fetches j, Fetch.Timed now f := fun j f hf => (h.fetches j f hf).mono hle
  cases event with
  | call i caller app =>
    dsimp only at hstep
    split at hstep
    · cases hstep
    · rw [← Option.some.inj hstep, World.call]
      split
      · exact ⟨hcalls, h.kept⟩
      · refine ⟨timed_update h.fetches hle ?_, h.kept⟩
        rintro f ⟨⟩
        exact ⟨le_rfl, by simp⟩
  | answer i answer =>
    dsimp only at hstep
    split at hstep
    · rename_i fetch hfetch
      split at hstep
      · cases hstep
      · rw [← Option.some.inj hstep]
        refine ⟨timed_update h.fetches hle ?_, h.kept⟩
        rintro f ⟨⟩
        have hstarted := (hcalls i fetch hfetch).1
        refine ⟨hstarted, ?_⟩
        rintro answer' ⟨⟩
        exact ⟨hstarted, le_rfl⟩
    · cases hstep
  | receive i =>
    dsimp only at hstep
    split at hstep
    · rename_i fetch hfetch
      obtain ⟨answer, hanswer, rfl⟩ := Option.map_eq_some_iff.mp hstep
      have hnone : ∀ j, ∀ f ∈ Function.update s.fetches i none j, Fetch.Timed now f :=
        timed_update h.fetches hle (by simp)
      unfold World.receive
      split
      · exact ⟨hnone, h.kept⟩
      · rename_i token htoken
        refine ⟨hnone, ?_⟩
        rintro token' ⟨⟩
        -- the call started before the token was issued
        have hissued := ((h.fetches i fetch hfetch).2 answer hanswer).1
        rw [← (TokenAnswer.of_token htoken).2] at hissued
        exact add_le_add_left hissued _
    · cases hstep
  | fail i =>
    dsimp only at hstep
    split at hstep
    · rw [← Option.some.inj hstep]
      exact ⟨timed_update h.fetches hle (by simp), h.kept⟩
    · cases hstep

/-! ## Requests -/

/-- A call with a token builds proper requests just if it sends no message, or the token is one for it. -/
theorem forall_request_iff (caller : Caller) (app : App) (token : Token) (now : ℚ) :
    (∀ request ∈ caller.request app token now, request.Proper) ↔
      (caller = .postMessage → token.app = app ∧ now < token.issuedAt + token.lifetime) := by
  cases caller with
  | testIntegration => simp [Caller.request]
  | postMessage => simp [Caller.request, Request.Proper]

/-- **A step builds proper requests if and only if what they rely on holds.** -/
theorem World.Sound.proper_iff {s t : World} {label : Event × ℚ} (h : s.Sound) (hproper : s.Proper)
    (hstep : s.step label = some t) : t.Proper ↔ Reliable s label := by
  obtain ⟨event, now⟩ := label
  have happend : ∀ requests : List Request,
      (∀ request ∈ requests ++ s.requests, request.Proper) ↔ ∀ request ∈ requests, request.Proper := by
    intro requests
    rw [List.forall_mem_append]
    exact and_iff_left hproper
  unfold World.step at hstep
  split at hstep
  · cases hstep
  cases event with
  | call i caller app =>
    dsimp only at hstep
    split at hstep
    · cases hstep
    · rw [← Option.some.inj hstep, World.call]
      split
      · rename_i token hcached
        rw [World.Proper, happend, forall_request_iff]
        cases caller with
        | testIntegration => simp [Reliable]
        | postMessage =>
          have hfresh : (token.lifetime < 60 → now < token.issuedAt + token.lifetime) ↔
              now < token.issuedAt + token.lifetime := by
            refine ⟨fun hshort => ?_, fun h _ => h⟩
            by_cases hlong : 60 ≤ token.lifetime
            · exact h.fresh hcached hlong
            · exact hshort (not_le.mp hlong)
          simp [Reliable, hcached, hfresh]
      · rename_i hcached
        cases caller with
        | testIntegration => exact iff_of_true hproper trivial
        | postMessage => exact iff_of_true hproper (by simp [Reliable, hcached])
  | answer i answer =>
    dsimp only at hstep
    split at hstep
    · split at hstep
      · cases hstep
      · rw [← Option.some.inj hstep]
        exact iff_of_true hproper trivial
    · cases hstep
  | receive i =>
    dsimp only at hstep
    split at hstep
    · rename_i fetch hfetch
      obtain ⟨⟨answer, issuedAt⟩, hanswer, rfl⟩ := Option.map_eq_some_iff.mp hstep
      unfold World.receive
      split
      · rename_i htoken
        refine iff_of_true hproper ?_
        simp [Reliable, hfetch, hanswer, htoken]
      · rename_i token htoken
        rw [World.Proper, happend, forall_request_iff]
        simp [Reliable, hfetch, hanswer, htoken, (TokenAnswer.of_token htoken).1, sub_lt_iff_lt_add']
    · cases hstep
  | fail i =>
    dsimp only at hstep
    split at hstep
    · rw [← Option.some.inj hstep]
      exact iff_of_true hproper trivial
    · cases hstep

/-- **The runs in which every request goes out with a token of its application that has not expired are
the runs in which every message can rely on the token that it finds or receives.** -/
theorem tokens_iff (clock : ℚ) (labels : List (Event × ℚ)) (t : World) :
    Run World.step (fun s label => ∃ u ∈ s.step label, u.Proper) { clock := clock } labels t ↔
      Run World.step Reliable { clock := clock } labels t := by
  refine Run.leadsTo_iff (I := fun s => s.Sound ∧ s.Proper) ?_ ?_ ?_
  · intro s label u hs hstep
    exact hs.1.proper_iff hs.2 hstep
  · intro s label u hs hstep hproper
    exact ⟨hs.1.step hstep, hproper⟩
  · exact ⟨⟨by simp, by simp⟩, by simp [World.Proper]⟩

/-! ## Two applications -/

/-- A bot's application, and the one that it is replaced by. -/
def firstApp : App where
  appId := "cli_1".toList
  appSecret := "one".toList

@[inherit_doc firstApp]
def secondApp : App where
  appId := "cli_2".toList
  appSecret := "two".toList

/-- The request of the second application. -/
def secondRequest : Request where
  app := secondApp
  token := { text := "t-1".toList, app := firstApp, issuedAt := 0, lifetime := 7200 }
  builtAt := 60

/-- **A message goes out with another application's token**: the first application's token is fetched
for a test, and a message of the second one is sent a minute later. -/
theorem token_of_another_app :
    ¬ ∀ (clock : ℚ) (labels : List (Event × ℚ)) (t : World),
      Run World.step Always { clock := clock } labels t → t.Proper := by
  intro hclaim
  have hproper := hclaim 0 [(.call 0 .testIntegration firstApp, 0),
    (.answer 0 { code := some 0, tenantAccessToken := some "t-1".toList, expire := some 7200 }, 0),
    (.receive 0, 1), (.call 1 .postMessage secondApp, 60)] _
    (.cons trivial rfl (.cons trivial rfl (.cons trivial rfl (.cons trivial rfl (.nil _)))))
  have happ := (hproper secondRequest (by with_unfolding_all decide)).1
  revert happ
  decide

end DBClaw.Bots.TenantTokens
