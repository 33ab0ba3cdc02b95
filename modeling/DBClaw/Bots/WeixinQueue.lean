import DBClaw.Bots.Messages
import DBClaw.Library.Traces

/-! # The queue of Weixin messages
`poll_once` puts the messages of a `get_updates` response into `_MESSAGE_QUEUE` and then stores the new
cursor, by which they are acknowledged; `_consumer_loop` takes them from the queue one after another and
passes them to `handle_message`. `losesNothing_iff` says that whatever is acknowledged is handled at
last, as long as the service runs, just if the consumer can log each message it takes and the process is
not left with acknowledged messages in the queue. -/

namespace DBClaw.Bots.WeixinQueue

open Runs

/-! ## Messages -/

/-- What a `for` loop goes through: the characters of a text and the keys of a dictionary too. -/
def iter? : Json → Option (List Json)
  | .arr items => some items
  | .str text => some (text.map fun c => .str [c])
  | .obj fields => some (fields.map fun field => .str field.1.toList)
  | _ => none

/-- The messages and the new cursor of a response of `get_updates`. -/
def updates? (py : Python) (cursor : Text) (response : Json) : Option (List Json × Text) := do
  let msgs ← iter? ((← get? response "msgs").or (.arr []))
  let newCursor := (← get? response "get_updates_buf").or (.str cursor)
  return (msgs, match newCursor with
    | .str text => text
    | value => py.str value)

/-- The text that `_consumer_loop` logs of a message, `none` where it raises: the first entry of
`item_list`, and then its `text_item`, are read as dictionaries whatever they are. -/
def logText? (py : Python) (msg : Json) : Option Text := do
  let .obj message := msg | none
  let .arr (item :: _) := Dict.getD message "item_list" (.arr [.obj []]) | none
  let .obj item := item | none
  let text ← get? (Dict.getD item "text_item" (.obj [])) "text"
  return py.str (text.or (Dict.getD message "message_id" (.str [])))

/-! ## State -/

/-- A message in the queue, with its number in the order in which messages were received. -/
structure Item where
  receipt : ℕ
  message : Json

/-- The polling task: not running, before `get_updates` returns, or before the new cursor is stored,
which acknowledges the messages of the response. -/
inductive Poller
  | off
  | polling
  | saving (newCursor : Text) (receipts : List ℕ)

/-- The consumer task: not running, before `get` returns, in `handle_message`, or ended by an exception
of its own. -/
inductive Consumer
  | off
  | waiting
  | handling
  | dead
  deriving DecidableEq

/-- The stored cursor, the queue, the two tasks, and the logs of the messages that were acknowledged
and that were passed to `handle_message`. -/
structure State where
  cursor : Text := []
  received : ℕ := 0
  queue : List Item := []
  poller : Poller := .off
  consumer : Consumer := .off
  acknowledged : List ℕ := []
  handled : List ℕ := []

/-- The receipts of the queue. -/
def State.receipts (s : State) : List ℕ := s.queue.map (·.receipt)

/-- What happens next: the poller is started or stopped, the process ends and another one starts,
`get_updates` returns, the cursor is stored or this fails, the consumer takes a message, or
`handle_message` is done with it (it returns or raises). -/
inductive Action
  | start
  | stop
  | exit
  | poll (response : Json)
  | save
  | saveFails
  | take
  | done

/-- `await _MESSAGE_QUEUE.put(...)` for each message of a response. -/
def State.put (s : State) (msgs : List Json) : State :=
  { s with
    received := s.received + msgs.length
    queue := s.queue ++ msgs.zipIdx.map fun (msg, k) => ⟨s.received + k, msg⟩ }

/-- **One step** of the poller, the consumer or the process. -/
def step (py : Python) (s : State) : Action → Option State
  -- nothing is started while the polling task is alive, whatever has become of the consumer
  | .start =>
    match s.poller with
    | .off => some { s with poller := .polling, consumer := .waiting }
    | _ => some s
  | .stop => some { s with poller := .off, consumer := .off }
  -- the queue is in memory
  | .exit => some { s with queue := [], poller := .off, consumer := .off }
  | .poll response =>
    match s.poller with
    | .polling =>
      match updates? py s.cursor response with
      | some (msgs, newCursor) =>
        let t := s.put msgs
        if newCursor = s.cursor then some t
        else some { t with poller := .saving newCursor (List.range' s.received msgs.length) }
      | none => some s
    | _ => none
  | .save =>
    match s.poller with
    | .saving newCursor receipts =>
      some { s with
        cursor := newCursor
        poller := .polling
        acknowledged := s.acknowledged ++ receipts }
    | _ => none
  | .saveFails =>
    match s.poller with
    | .saving .. => some { s with poller := .polling }
    | _ => none
  | .take =>
    match s.consumer, s.queue with
    | .waiting, item :: queue =>
      match logText? py item.message with
      | some _ =>
        some { s with queue, consumer := .handling, handled := s.handled ++ [item.receipt] }
      | none => some { s with queue, consumer := .dead }
    | _, _ => none
  | .done =>
    match s.consumer with
    | .handling => some { s with consumer := .waiting }
    | _ => none

/-! ## Nothing is lost -/

/-- A step of the consumer. -/
def Action.ofConsumer : Action → Bool
  | .take | .done => true
  | .start | .stop | .exit | .poll _ | .save | .saveFails => false

variable {py : Python}

/-- **The service runs**: the poller is on again and again, and the consumer is scheduled fairly. -/
structure InService (ρ : Trace (step py) {}) : Prop where
  on : Trace.Again fun n => (ρ.state n).poller ≠ .off
  fair : ρ.Fair fun a => a.ofConsumer

/-- **Nothing is lost**: the consumer never ends by an exception, and whatever was acknowledged is
passed to `handle_message` at last. -/
structure LosesNothing (ρ : Trace (step py) {}) : Prop where
  alive : ∀ n, (ρ.state n).consumer ≠ .dead
  handled : ∀ n, ∀ r ∈ (ρ.state n).acknowledged, ∃ m, r ∈ (ρ.state m).handled

/-- The message is a dictionary whose `item_list`, where there is one, is a list that starts with a
dictionary whose `text_item`, where there is one, is a dictionary. -/
def readable : Json → Bool
  | .obj message =>
    match message.lookup "item_list" with
    | none => true
    | some (.arr (.obj item :: _)) =>
      match item.lookup "text_item" with
      | none | some (.obj _) => true
      | some _ => false
    | some _ => false
  | _ => false

/-- **The condition on a step**: the consumer takes a readable message, and the process does not end
with acknowledged messages in the queue. -/
def Safe (s : State) : Action → Prop
  | .take => ∀ item ∈ s.queue.head?, readable item.message = true
  | .exit => ∀ r ∈ s.receipts, r ∉ s.acknowledged
  | .start | .stop | .poll _ | .save | .saveFails | .done => True

/-- **What can be logged** are the readable messages. -/
theorem logText?_isSome (py : Python) (msg : Json) : (logText? py msg).isSome = readable msg := by
  cases msg with
  | obj message =>
    simp only [logText?, readable, Dict.getD]
    cases message.lookup "item_list" with
    | none => rfl
    | some itemList =>
      cases itemList with
      | arr items =>
        cases items with
        | nil => rfl
        | cons item _ =>
          cases item with
          | obj item =>
            simp only [Option.getD_some]
            cases item.lookup "text_item" with
            | none => rfl
            | some textItem => cases textItem <;> rfl
          | _ => rfl
      | _ => rfl
  | _ => rfl

variable {s t : State} {a : Action} {r : ℕ}

/-! ## What the steps do -/

theorem receipts_put (s : State) (msgs : List Json) :
    (s.put msgs).receipts = s.receipts ++ List.range' s.received msgs.length := by
  have hnumbers : ∀ (msgs : List Json) (k n : ℕ),
      ((msgs.zipIdx k).map fun (msg, k) => (⟨n + k, msg⟩ : Item)).map (·.receipt) =
        List.range' (n + k) msgs.length := by
    intro msgs
    induction msgs with
    | nil => intro k n; rfl
    | cons msg msgs ih =>
      intro k n
      rw [List.zipIdx_cons, List.map_cons, List.map_cons, ih (k + 1) n]
      rfl
  unfold State.put State.receipts
  rw [List.map_append, hnumbers msgs 0 s.received, Nat.add_zero]

/-- What a step of the poller adds to the queue, and what it waits to acknowledge then. -/
theorem poll_spec {response : Json} (h : step py s (.poll response) = some t) :
    t = s ∨ ∃ msgs, t = s.put msgs ∨
      ∃ newCursor, t = { s.put msgs with
        poller := .saving newCursor (List.range' s.received msgs.length) } := by
  rw [step] at h
  split at h
  · split at h
    · rename_i msgs newCursor _
      dsimp only at h
      split at h
      · exact .inr ⟨msgs, .inl (Option.some.inj h).symm⟩
      · exact .inr ⟨msgs, .inr ⟨newCursor, (Option.some.inj h).symm⟩⟩
    · exact .inl (Option.some.inj h).symm
  · cases h

theorem take_spec (h : step py s .take = some t) :
    ∃ item queue, s.consumer = .waiting ∧ s.queue = item :: queue ∧
      ((readable item.message = true ∧
        t = { s with queue, consumer := .handling, handled := s.handled ++ [item.receipt] }) ∨
      (readable item.message = false ∧ t = { s with queue, consumer := .dead })) := by
  rw [step] at h
  split at h
  · rename_i item queue hconsumer hqueue
    refine ⟨item, queue, hconsumer, hqueue, ?_⟩
    rw [← logText?_isSome py]
    split at h
    · rename_i hlog
      exact .inl ⟨by rw [hlog]; rfl, (Option.some.inj h).symm⟩
    · rename_i hlog
      exact .inr ⟨by rw [hlog]; rfl, (Option.some.inj h).symm⟩
  · cases h

/-- What a step does to the messages: nothing, it forgets the queue, receives some, or takes the first
one from the queue, which is passed on or dropped. -/
inductive Effect (s : State) (a : Action) (t : State) : Prop
  | same (receipts : t.receipts = s.receipts) (received : t.received = s.received)
    (handled : t.handled = s.handled)
  | forgot (exit : a = .exit) (receipts : t.receipts = []) (received : t.received = s.received)
    (handled : t.handled = s.handled)
  | got (k : ℕ) (receipts : t.receipts = s.receipts ++ List.range' s.received k)
    (received : t.received = s.received + k) (handled : t.handled = s.handled)
  | passed (r : ℕ) (receipts : s.receipts = r :: t.receipts) (received : t.received = s.received)
    (handled : t.handled = s.handled ++ [r])
  | dropped (r : ℕ) (notSafe : ¬ Safe s a) (receipts : s.receipts = r :: t.receipts)
    (received : t.received = s.received) (handled : t.handled = s.handled)

theorem effect_of_step (h : step py s a = some t) : Effect s a t := by
  cases a with
  | start =>
    rw [step] at h
    split at h <;> cases h <;> exact .same rfl rfl rfl
  | stop =>
    cases h
    exact .same rfl rfl rfl
  | exit =>
    cases h
    exact .forgot rfl rfl rfl rfl
  | poll response =>
    obtain rfl | ⟨msgs, rfl | ⟨newCursor, rfl⟩⟩ := poll_spec h
    · exact .same rfl rfl rfl
    · exact .got msgs.length (receipts_put s msgs) rfl rfl
    · exact .got msgs.length (receipts_put s msgs) rfl rfl
  | save =>
    rw [step] at h
    split at h <;> cases h
    exact .same rfl rfl rfl
  | saveFails =>
    rw [step] at h
    split at h <;> cases h
    exact .same rfl rfl rfl
  | take =>
    obtain ⟨item, queue, -, hqueue, ⟨-, rfl⟩ | ⟨hread, rfl⟩⟩ := take_spec h
    · exact .passed item.receipt (by rw [State.receipts, hqueue]; rfl) rfl rfl
    · refine .dropped item.receipt (fun hsafe => ?_) (by rw [State.receipts, hqueue]; rfl) rfl rfl
      have hreadable := hsafe item (by rw [hqueue]; rfl)
      rw [hread] at hreadable
      cases hreadable
  | done =>
    rw [step] at h
    split at h <;> cases h
    exact .same rfl rfl rfl

/-- What was acknowledged stays so. -/
theorem acknowledged_of_step (h : step py s a = some t) (hr : r ∈ s.acknowledged) :
    r ∈ t.acknowledged := by
  cases a with
  | poll response =>
    obtain rfl | ⟨msgs, rfl | ⟨newCursor, rfl⟩⟩ := poll_spec h <;> exact hr
  | take =>
    obtain ⟨item, queue, -, -, ⟨-, rfl⟩ | ⟨-, rfl⟩⟩ := take_spec h <;> exact hr
  | save =>
    rw [step] at h
    split at h <;> cases h
    exact List.mem_append_left _ hr
  | start | stop | exit | saveFails | done =>
    rw [step] at h
    first
      | (cases h; exact hr)
      | (split at h <;> cases h <;> exact hr)

/-! ## The order of the messages -/

/-- **First in, first out**: the queue is in the order of receipt, and what was handled came before it. -/
structure Numbered (s : State) : Prop where
  sorted : s.receipts.Pairwise (· < ·)
  received : ∀ r ∈ s.receipts, r < s.received
  before : ∀ h ∈ s.handled, ∀ r ∈ s.receipts, h < r
  handled : ∀ h ∈ s.handled, h < s.received

theorem numbered_step (hI : Numbered s) (h : step py s a = some t) : Numbered t := by
  cases effect_of_step h with
  | same receipts received handled =>
    refine ⟨?_, ?_, ?_, ?_⟩
    · rw [receipts]; exact hI.sorted
    · rw [receipts, received]; exact hI.received
    · rw [handled, receipts]; exact hI.before
    · rw [handled, received]; exact hI.handled
  | forgot exit receipts received handled =>
    refine ⟨?_, ?_, ?_, ?_⟩
    · rw [receipts]; exact .nil
    · rw [receipts]; exact List.forall_mem_nil _
    · rw [receipts]; exact fun _ _ => List.forall_mem_nil _
    · rw [handled, received]; exact hI.handled
  | got k receipts received handled =>
    refine ⟨?_, ?_, ?_, ?_⟩
    · rw [receipts, List.pairwise_append]
      refine ⟨hI.sorted, List.pairwise_lt_range', fun r hr r' hr' => ?_⟩
      exact (hI.received r hr).trans_le (List.mem_range'_1.mp hr').1
    · rw [receipts, received]
      intro r hr
      obtain hold | hnew := List.mem_append.mp hr
      · exact Nat.lt_add_right k (hI.received r hold)
      · exact (List.mem_range'_1.mp hnew).2
    · rw [handled, receipts]
      intro h hh r hr
      obtain hold | hnew := List.mem_append.mp hr
      · exact hI.before h hh r hold
      · exact (hI.handled h hh).trans_le (List.mem_range'_1.mp hnew).1
    · rw [handled, received]
      exact fun h hh => Nat.lt_add_right k (hI.handled h hh)
  | passed r receipts received handled =>
    obtain ⟨hfirst, hsorted⟩ := List.pairwise_cons.mp (receipts ▸ hI.sorted)
    have htail : ∀ r' ∈ t.receipts, r' ∈ s.receipts := fun r' hr' =>
      receipts ▸ List.mem_cons_of_mem r hr'
    have hhead : r ∈ s.receipts := receipts ▸ List.mem_cons_self
    refine ⟨hsorted, ?_, ?_, ?_⟩
    · rw [received]
      exact fun r' hr' => hI.received r' (htail r' hr')
    · rw [handled]
      intro h hh r' hr'
      obtain hold | hnew := List.mem_append.mp hh
      · exact hI.before h hold r' (htail r' hr')
      · rw [List.mem_singleton.mp hnew]
        exact hfirst r' hr'
    · rw [handled, received]
      intro h hh
      obtain hold | hnew := List.mem_append.mp hh
      · exact hI.handled h hold
      · rw [List.mem_singleton.mp hnew]
        exact hI.received r hhead
  | dropped r notSafe receipts received handled =>
    obtain ⟨-, hsorted⟩ := List.pairwise_cons.mp (receipts ▸ hI.sorted)
    have htail : ∀ r' ∈ t.receipts, r' ∈ s.receipts := fun r' hr' =>
      receipts ▸ List.mem_cons_of_mem r hr'
    refine ⟨hsorted, ?_, ?_, ?_⟩
    · rw [received]
      exact fun r' hr' => hI.received r' (htail r' hr')
    · rw [handled]
      exact fun h hh r' hr' => hI.before h hh r' (htail r' hr')
    · rw [handled, received]
      exact hI.handled

theorem numbered_start : Numbered {} :=
  ⟨.nil, List.forall_mem_nil _, List.forall_mem_nil _, List.forall_mem_nil _⟩

/-! ## Messages that are lost -/

/-- A message that was received and is neither in the queue nor handled. -/
structure Lost (r : ℕ) (s : State) : Prop where
  received : r < s.received
  notQueued : r ∉ s.receipts
  notHandled : r ∉ s.handled

/-- **What is lost stays lost.** -/
theorem lost_step (hlost : Lost r s) (h : step py s a = some t) : Lost r t := by
  obtain ⟨hreceived, hqueued, hhandled⟩ := hlost
  cases effect_of_step h with
  | same receipts received handled => exact ⟨received ▸ hreceived, receipts ▸ hqueued, handled ▸ hhandled⟩
  | forgot exit receipts received handled =>
    exact ⟨received ▸ hreceived, receipts ▸ List.not_mem_nil, handled ▸ hhandled⟩
  | got k receipts received handled =>
    refine ⟨?_, ?_, handled ▸ hhandled⟩
    · rw [received]
      exact Nat.lt_add_right k hreceived
    · rw [receipts, List.mem_append, not_or]
      exact ⟨hqueued, fun hnew => absurd hreceived (List.mem_range'_1.mp hnew).1.not_gt⟩
  | passed r' receipts received handled =>
    rw [receipts, List.mem_cons, not_or] at hqueued
    refine ⟨received ▸ hreceived, hqueued.2, ?_⟩
    rw [handled, List.mem_append, List.mem_singleton, not_or]
    exact ⟨hhandled, hqueued.1⟩
  | dropped r' notSafe receipts received handled =>
    rw [receipts, List.mem_cons, not_or] at hqueued
    exact ⟨received ▸ hreceived, hqueued.2, handled ▸ hhandled⟩

/-- What was handled stays so. -/
theorem handled_of_step (h : step py s a = some t) (hr : r ∈ s.handled) : r ∈ t.handled := by
  cases effect_of_step h with
  | passed r' receipts received handled => exact handled ▸ List.mem_append_left _ hr
  | same _ _ handled => exact handled ▸ hr
  | forgot _ _ _ handled => exact handled ▸ hr
  | got _ _ _ handled => exact handled ▸ hr
  | dropped _ _ _ _ handled => exact handled ▸ hr

/-! ## Messages that are kept -/

/-- The message was handled or is in the queue. -/
def State.Has (s : State) (r : ℕ) : Prop := r ∈ s.handled ∨ r ∈ s.receipts

/-- A safe step within the process keeps the messages. -/
theorem has_step (hsafe : Safe s a) (h : step py s a = some t) (hexit : a ≠ .exit) (hr : s.Has r) :
    t.Has r := by
  cases effect_of_step h with
  | same receipts received handled =>
    unfold State.Has
    rwa [receipts, handled]
  | forgot exit receipts received handled => exact absurd exit hexit
  | got k receipts received handled =>
    unfold State.Has
    rw [receipts, handled]
    exact hr.imp_right (List.mem_append_left _)
  | passed r' receipts received handled =>
    unfold State.Has at hr ⊢
    rw [receipts, List.mem_cons] at hr
    rw [handled, List.mem_append, List.mem_singleton]
    obtain hold | hfirst | hrest := hr
    · exact .inl (.inl hold)
    · exact .inl (.inr hfirst)
    · exact .inr hrest
  | dropped r' notSafe receipts received handled => exact absurd hsafe notSafe

/-- **The invariant of safe steps**: the consumer is alive, and on with the poller, and what was
acknowledged, or is about to be, was handled or is in the queue. -/
structure Kept (s : State) : Prop where
  alive : s.consumer ≠ .dead
  on : s.poller ≠ .off → s.consumer ≠ .off
  acknowledged : ∀ r ∈ s.acknowledged, s.Has r
  saving : ∀ newCursor receipts, s.poller = .saving newCursor receipts → ∀ r ∈ receipts, s.Has r

theorem kept_step (hI : Kept s) (hsafe : Safe s a) (h : step py s a = some t) : Kept t := by
  have hhas : a ≠ .exit → ∀ r, s.Has r → t.Has r := fun hexit r hr => has_step hsafe h hexit hr
  cases a with
  | start =>
    have hkeep := hhas (by simp)
    rw [step] at h
    split at h
    · cases h
      exact ⟨by simp, by simp, fun r hr => hkeep r (hI.acknowledged r hr), by simp⟩
    · cases h
      exact hI
  | stop =>
    have hkeep := hhas (by simp)
    cases h
    exact ⟨by simp, by simp, fun r hr => hkeep r (hI.acknowledged r hr), by simp⟩
  | exit =>
    cases h
    refine ⟨by simp, by simp, fun r hr => ?_, by simp⟩
    -- what is acknowledged is not in the queue any more
    exact (hI.acknowledged r hr).imp_right fun hqueued => absurd hr (hsafe r hqueued)
  | poll response =>
    have hkeep := hhas (by simp)
    obtain rfl | ⟨msgs, rfl | ⟨newCursor, rfl⟩⟩ := poll_spec h
    · exact hI
    · exact ⟨hI.alive, hI.on, fun r hr => hkeep r (hI.acknowledged r hr),
        fun _ _ hpoller r hr => hkeep r (hI.saving _ _ hpoller r hr)⟩
    · refine ⟨hI.alive, fun _ => ?_, fun r hr => hkeep r (hI.acknowledged r hr), ?_⟩
      · rw [step] at h
        split at h
        · rename_i hpolling
          exact hI.on (by rw [hpolling]; simp)
        · cases h
      · rintro _ _ ⟨⟩ r hr
        exact .inr ((receipts_put s msgs).symm ▸ List.mem_append_right _ hr)
  | save =>
    have hkeep := hhas (by simp)
    rw [step] at h
    split at h
    · rename_i newCursor receipts hpoller
      cases h
      refine ⟨hI.alive, fun _ => hI.on (by rw [hpoller]; simp), fun r hr => ?_, by simp⟩
      obtain hold | hnew := List.mem_append.mp hr
      · exact hkeep r (hI.acknowledged r hold)
      · exact hkeep r (hI.saving _ _ hpoller r hnew)
    · cases h
  | saveFails =>
    have hkeep := hhas (by simp)
    rw [step] at h
    split at h
    · rename_i hpoller
      cases h
      exact ⟨hI.alive, fun _ => hI.on (by rw [hpoller]; simp),
        fun r hr => hkeep r (hI.acknowledged r hr), by simp⟩
    · cases h
  | take =>
    have hkeep := hhas (by simp)
    obtain ⟨item, queue, -, hqueue, ⟨-, rfl⟩ | ⟨hread, rfl⟩⟩ := take_spec h
    · exact ⟨by simp, by simp, fun r hr => hkeep r (hI.acknowledged r hr),
        fun _ _ hpoller r hr => hkeep r (hI.saving _ _ hpoller r hr)⟩
    · have hreadable := hsafe item (by rw [hqueue]; rfl)
      rw [hread] at hreadable
      cases hreadable
  | done =>
    have hkeep := hhas (by simp)
    rw [step] at h
    split at h
    · cases h
      exact ⟨by simp, by simp, fun r hr => hkeep r (hI.acknowledged r hr),
        fun _ _ hpoller r hr => hkeep r (hI.saving _ _ hpoller r hr)⟩
    · cases h

theorem kept_start : Kept {} := ⟨by simp, by simp, List.forall_mem_nil _, by simp⟩

/-! ## What is kept is handled at last -/

/-- How far a message in the queue is from being handled, in moves of the consumer. -/
def rank (r : ℕ) (s : State) : ℕ :=
  2 * s.receipts.idxOf r + if s.consumer = .handling then 1 else 0

/-- A step that keeps the queue and does not send the consumer to work takes nothing farther away. -/
theorem rank_le_of_receipts (hreceipts : t.receipts = s.receipts)
    (hconsumer : t.consumer = .handling → s.consumer = .handling) : rank r t ≤ rank r s := by
  unfold rank
  rw [hreceipts]
  split
  · rename_i ht
    rw [if_pos (hconsumer ht)]
  · omega

/-- What comes to the end of the queue takes nothing farther away. -/
theorem rank_put (msgs : List Json) (hr : r ∈ s.receipts) (poller : Poller) :
    rank r { s.put msgs with poller := poller } = rank r s := by
  have hreceipts : ({ s.put msgs with poller := poller } : State).receipts =
      s.receipts ++ List.range' s.received msgs.length := receipts_put s msgs
  unfold rank
  rw [hreceipts, List.idxOf_append_of_mem hr]
  rfl

/-- **No step takes a queued message farther away, and each move of the consumer brings it nearer.** -/
theorem rank_step (hI : Numbered s) (h : step py s a = some t) (hr : r ∈ s.receipts)
    (hr' : r ∈ t.receipts) :
    rank r t ≤ rank r s ∧ (a.ofConsumer = true → rank r t < rank r s) := by
  cases a with
  | start =>
    refine ⟨?_, nofun⟩
    rw [step] at h
    split at h <;> cases h
    · exact rank_le_of_receipts rfl nofun
    · exact le_rfl
  | stop =>
    cases h
    exact ⟨rank_le_of_receipts rfl nofun, nofun⟩
  | exit =>
    cases h
    cases hr'
  | poll response =>
    refine ⟨?_, nofun⟩
    obtain rfl | ⟨msgs, rfl | ⟨newCursor, rfl⟩⟩ := poll_spec h
    · exact le_rfl
    · exact (rank_put msgs hr _).le
    · exact (rank_put msgs hr _).le
  | save =>
    refine ⟨?_, nofun⟩
    rw [step] at h
    split at h <;> cases h
    exact rank_le_of_receipts rfl id
  | saveFails =>
    refine ⟨?_, nofun⟩
    rw [step] at h
    split at h <;> cases h
    exact rank_le_of_receipts rfl id
  | take =>
    obtain ⟨item, queue, hwaiting, hqueue, htaken⟩ := take_spec h
    have hs : s.receipts = item.receipt :: queue.map (·.receipt) := by rw [State.receipts, hqueue]; rfl
    have ht : t.receipts = queue.map (·.receipt) := by
      obtain ⟨-, rfl⟩ | ⟨-, rfl⟩ := htaken <;> rfl
    -- the message is behind the one that is taken
    have hne : item.receipt ≠ r := by
      have hlt := (List.pairwise_cons.mp (hs ▸ hI.sorted)).1 r (ht ▸ hr')
      exact hlt.ne
    have hrank : rank r t < rank r s := by
      unfold rank
      rw [hs, ht, List.idxOf_cons_ne _ hne, hwaiting]
      split
      · simp
        omega
      · simp
    exact ⟨hrank.le, fun _ => hrank⟩
  | done =>
    rw [step] at h
    split at h
    · rename_i hhandling
      cases h
      have hrank : rank r { s with consumer := .waiting } < rank r s := by
        unfold rank
        rw [hhandling]
        exact Nat.lt_add_one _
      exact ⟨hrank.le, fun _ => hrank⟩
    · cases h

/-- While a message is in the queue, a consumer that is on and alive has something to do. -/
theorem enabled_of_queued (hI : Kept s) (hon : s.poller ≠ .off) (hr : r ∈ s.receipts) :
    ∃ a : Action, a.ofConsumer = true ∧ (step py s a).isSome := by
  cases hconsumer : s.consumer with
  | off => exact absurd hconsumer (hI.on hon)
  | dead => exact absurd hconsumer hI.alive
  | handling => exact ⟨.done, rfl, by rw [step, hconsumer]; rfl⟩
  | waiting =>
    refine ⟨.take, rfl, ?_⟩
    cases hqueue : s.queue with
    | nil =>
      rw [State.receipts, hqueue] at hr
      cases hr
    | cons item queue =>
      rw [step, hconsumer, hqueue]
      dsimp only
      split <;> rfl

variable {ρ : Trace (step py) {}}

theorem numbered (ρ : Trace (step py) {}) (n : ℕ) : Numbered (ρ.state n) :=
  Trace.persists (fun _ _ _ hI h => numbered_step hI h) (Nat.zero_le n) (by rw [ρ.start]; exact numbered_start)

/-- **What was acknowledged is handled at last** while the service runs, if all steps are safe. -/
theorem exists_handled (hservice : InService ρ) (hsafe : ∀ n, Safe (ρ.state n) (ρ.label n)) {n : ℕ}
    (hr : r ∈ (ρ.state n).acknowledged) : ∃ m, r ∈ (ρ.state m).handled := by
  have hkept : ∀ m, Kept (ρ.state m) :=
    Trace.invariant (fun _ _ _ hI hsafe h => kept_step hI hsafe h) kept_start hsafe
  obtain hdone | hqueued := (hkept n).acknowledged r hr
  · exact ⟨n, hdone⟩
  refine Trace.leadsTo (P := fun s => r ∈ s.acknowledged ∧ r ∈ s.receipts)
    (Q := fun s => r ∈ s.handled) (rank r) hservice.fair ?_ ?_ ?_ ?_ ⟨hr, hqueued⟩
  · intro m hP
    have hack := acknowledged_of_step (ρ.next m) hP.1
    exact ((hkept (m + 1)).acknowledged r hack).symm.imp_left fun hmem => ⟨hack, hmem⟩
  · intro m hP hP'
    exact (rank_step (numbered ρ m) (ρ.next m) hP.2 hP'.2).1
  · intro m hP hP' hmove
    exact (rank_step (numbered ρ m) (ρ.next m) hP.2 hP'.2).2 hmove
  · intro hP k
    obtain ⟨m, hm, hon⟩ := hservice.on (max n k)
    refine ⟨m, le_of_max_le_right hm, ?_⟩
    exact enabled_of_queued (hkept m) hon (hP m (le_of_max_le_left hm)).2

/-- **A process that ends loses the queue**: what was acknowledged and is in it is never handled. -/
theorem not_handled_of_exit {n : ℕ} (h : ρ.label n = .exit) (hr : r ∈ (ρ.state n).receipts) (m : ℕ) :
    r ∉ (ρ.state m).handled := by
  have hnumbered := numbered ρ n
  have hbefore : r ∉ (ρ.state n).handled := fun hmem => (hnumbered.before r hmem r hr).false
  have hlost : Lost r (ρ.state (n + 1)) := by
    have hnext := ρ.next n
    rw [h] at hnext
    rw [← Option.some.inj hnext]
    exact ⟨hnumbered.received r hr, List.not_mem_nil, hbefore⟩
  obtain hm | hm := le_or_gt m n
  · -- what is handled stays so
    exact fun hmem => hbefore (Trace.persists (fun _ _ _ hmem h => handled_of_step h hmem) hm hmem)
  · exact (Trace.persists (fun _ _ _ hlost h => lost_step hlost h) hm hlost).notHandled

/-- **Nothing is lost** while the service runs just if each message that the consumer takes is readable,
and the process never ends with acknowledged messages in the queue. -/
theorem losesNothing_iff (ρ : Trace (step py) {}) (hservice : InService ρ) :
    LosesNothing ρ ↔ ∀ n, Safe (ρ.state n) (ρ.label n) := by
  constructor
  · intro hgood n
    cases hlabel : ρ.label n with
    | take =>
      have hnext := ρ.next n
      rw [hlabel] at hnext
      obtain ⟨item, queue, -, hqueue, ⟨hread, -⟩ | ⟨-, hdead⟩⟩ := take_spec hnext
      · intro item' hitem'
        rw [hqueue] at hitem'
        cases hitem'
        exact hread
      · exact absurd (congrArg State.consumer hdead) (hgood.alive (n + 1))
    | exit =>
      intro r hr hack
      obtain ⟨m, hm⟩ := hgood.handled n r hack
      exact not_handled_of_exit hlabel hr m hm
    | start | stop | poll _ | save | saveFails | done => trivial
  · intro hsafe
    refine ⟨fun n => ?_, fun n r hr => exists_handled hservice hsafe hr⟩
    exact (Trace.invariant (fun _ _ _ hI hsafe h => kept_step hI hsafe h) kept_start hsafe n).alive

/-! ## What goes wrong -/

/-- A response of `get_updates`. -/
def response (msgs : List Json) : Json :=
  .obj [("msgs", .arr msgs), ("get_updates_buf", .str "buf_1".toList)]

/-- A text message. -/
def textMessage : Json :=
  .obj [("item_list", .arr [.obj [("type", .int 1), ("text_item", .obj [("text", .str "ok".toList)])]])]

/-- A message whose `item_list` is empty. -/
def emptyMessage : Json := .obj [("item_list", .arr [])]

/-- The poller after the messages of one response were taken and acknowledged. -/
def afterOne (consumer : Consumer) (queue : List Item) (received : ℕ) (handled : List ℕ) : State where
  cursor := "buf_1".toList
  received := received
  queue := queue
  poller := .polling
  consumer := consumer
  acknowledged := List.range received
  handled := handled

/-- A text message is received, acknowledged and handled; nothing more comes. -/
def textTrace : Trace (step messagesPython) {} :=
  .cons (a := .start) rfl <| .cons (a := .poll (response [textMessage])) rfl <|
    .cons (a := .save) rfl <| .cons (a := .take) rfl <| .cons (a := .done) rfl <|
      .idle (s := afterOne .waiting [] 1 [0]) (a := .poll (.obj [])) rfl

/-- A message without items is received and acknowledged together with a text message, and taken first. -/
def emptyTrace : Trace (step messagesPython) {} :=
  .cons (a := .start) rfl <| .cons (a := .poll (response [emptyMessage, textMessage])) rfl <|
    .cons (a := .save) rfl <| .cons (a := .take) rfl <|
      .idle (s := afterOne .dead [⟨1, textMessage⟩] 2 []) (a := .poll (.obj [])) rfl

/-- The poller is on from some time on, and then there is nothing to do for the consumer. -/
theorem inService_of_idle {ρ : Trace (step py) {}} (k : ℕ)
    (hon : ∀ n, (ρ.state (n + k)).poller ≠ .off)
    (htake : ∀ n, step py (ρ.state (n + k)) .take = none)
    (hdone : ∀ n, step py (ρ.state (n + k)) .done = none) : InService ρ := by
  refine ⟨fun n => ⟨n + k, Nat.le_add_right n k, hon n⟩, fun henabled => ?_⟩
  obtain ⟨m, hm, a, hmove, ha⟩ := henabled k
  obtain ⟨n, rfl⟩ := Nat.exists_eq_add_of_le' hm
  cases a with
  | take => rw [htake n] at ha; cases ha
  | done => rw [hdone n] at ha; cases ha
  | start | stop | exit | poll _ | save | saveFails => cases hmove

theorem inService_textTrace : InService textTrace :=
  inService_of_idle 5 (fun _ => nofun) (fun _ => rfl) (fun _ => rfl)

theorem inService_emptyTrace : InService emptyTrace :=
  inService_of_idle 4 (fun _ => nofun) (fun _ => rfl) (fun _ => rfl)

theorem losesNothing_textTrace :
    LosesNothing textTrace ↔ ∀ n, Safe (textTrace.state n) (textTrace.label n) :=
  losesNothing_iff textTrace inService_textTrace

/-- **One message without items ends the consumer**: it is lost, and so is the one behind it, as long as
the poller runs on. -/
theorem emptyTrace_loses :
    InService emptyTrace ∧ ¬ LosesNothing emptyTrace ∧
      ∀ n, (emptyTrace.state (n + 4)).acknowledged = [0, 1] ∧
        (emptyTrace.state (n + 4)).handled = [] :=
  ⟨inService_emptyTrace, fun h => h.alive 4 rfl, fun _ => ⟨rfl, rfl⟩⟩

end DBClaw.Bots.WeixinQueue
