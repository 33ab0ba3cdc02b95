import DBClaw.Chat.Rendering
import DBClaw.Chat.Session
import DBClaw.Library.Ledger

/-! # The tokens of a session
Every usage event is added to the totals of the session at once, and to the message of its run when the
stream persists it. A stream starts with empty totals and overwrites what the message had, so what a run used
before it was continued is lost from its message. -/

namespace DBClaw.Chat

open Runs Upserts Ledgers

/-! ## Balance -/

instance : AddCommMonoid Usage where
  add_assoc u v w := Usage.ext (Nat.add_assoc ..) (Nat.add_assoc ..) (Nat.add_assoc ..)
  zero_add u := Usage.ext (Nat.zero_add _) (Nat.zero_add _) (Nat.zero_add _)
  add_zero u := Usage.ext (Nat.add_zero _) (Nat.add_zero _) (Nat.add_zero _)
  add_comm u v := Usage.ext (Nat.add_comm ..) (Nat.add_comm ..) (Nat.add_comm ..)
  nsmul := nsmulRec

/-- A task streams under this run id. -/
def State.Streams (s : State) (runId : RunId) : Prop :=
  ∃ j web stream, s.tasks j = some ⟨web, .streaming stream⟩ ∧ stream.runId = runId

/-- **The tokens are accounted for**: the message of a run that is not streaming shows all that the run has
used, and when nothing is streaming the totals of the session are those of its messages. -/
structure Balanced (s : State) : Prop where
  message : ∀ m ∈ s.messages, ¬ s.Streams m.runId → m.usage = balance s.usages m.runId
  session : (∀ runId, ¬ s.Streams runId) → s.totals = (s.messages.map AssistantMessage.usage).sum

/-- There is text or a segment to store. -/
def Stream.Shows (stream : Stream) : Prop := ¬ (stream.fullResponse = [] ∧ stream.renderSegments.isEmpty = true)

instance (stream : Stream) : Decidable stream.Shows := inferInstanceAs (Decidable (¬ _))

/-- No tokens were used under the run id, and nothing is streaming under it. -/
def State.Unused (s : State) (runId : RunId) : Prop := balance s.usages runId = 0 ∧ ¬ s.Streams runId

/-- **The condition on a step**: a stream begins under an unused run id, and ends with something to store if
it has used tokens. -/
def Accounts (s : State) : Label → Prop
  | .start _ second _ _ => s.Unused second
  | .advance i _ => ∀ web pending approved,
    s.tasks i = some ⟨web, .resolving pending approved .returned⟩ → s.Unused pending.runId
  | .finish i _ | .cancel i _ => ∀ web stream,
    s.tasks i = some ⟨web, .streaming stream⟩ → stream.usageTotals = 0 ∨ stream.Shows
  | _ => True

/-! ## The usage of messages -/

/-- The tokens on the message of a run. -/
def usageOf (messages : List AssistantMessage) (runId : RunId) : Option Usage :=
  (loadAssistantMessageByRunId messages runId).map AssistantMessage.usage

/-- Persisting with totals, or without. -/
theorem usageOf_persist (messages : List AssistantMessage) (runId runId' : RunId) (content : Text)
    (renderSegments : List Segment) (status : AssistantStatus) (u : Option Usage) :
    usageOf (persistAssistantMessage messages runId content renderSegments status u) runId' =
      if runId' = runId then some (u.getD ((usageOf messages runId).getD 0)) else usageOf messages runId' := by
  unfold usageOf
  rw [load_persist]
  split <;> rfl

/-- Changing the segments of a message. -/
@[simp] theorem usageOf_updateSegments (messages : List AssistantMessage) (runId runId' : RunId)
    (f : List Segment → List Segment) : usageOf (updateSegments messages runId f) runId' = usageOf messages runId' := by
  unfold updateSegments
  split
  · rfl
  · rename_i m hload
    rw [usageOf_persist]
    split
    · rename_i heq
      simp [usageOf, heq, hload]
    · rfl

/-- One message a run. -/
def OnePerRun (messages : List AssistantMessage) : Prop := (messages.map AssistantMessage.runId).Nodup

theorem OnePerRun.persist {messages : List AssistantMessage} (h : OnePerRun messages) (runId : RunId)
    (content : Text) (renderSegments : List Segment) (status : AssistantStatus) (u : Option Usage) :
    OnePerRun (persistAssistantMessage messages runId content renderSegments status u) := by
  have hkeys (l : List AssistantMessage) : l.map AssistantMessage.runId = l.filterMap (some ·.runId) :=
    (List.filterMap_eq_map (f := AssistantMessage.runId) ▸ rfl)
  rw [OnePerRun, hkeys] at h ⊢
  unfold persistAssistantMessage
  refine nodup_upsert ?_ ?_ h
  · exact fun _ => rfl
  · rfl

theorem OnePerRun.updateSegments {messages : List AssistantMessage} (h : OnePerRun messages) (runId : RunId)
    (f : List Segment → List Segment) : OnePerRun (updateSegments messages runId f) := by
  unfold Chat.updateSegments
  split
  · exact h
  · exact h.persist ..

theorem OnePerRun.usageOf {messages : List AssistantMessage} (h : OnePerRun messages) {m : AssistantMessage}
    (hm : m ∈ messages) : Chat.usageOf messages m.runId = some m.usage := by
  obtain ⟨m', hm'⟩ := Option.isSome_iff_exists.mp (List.find?_isSome (p := fun x : AssistantMessage => x.runId = m.runId)
    |>.mpr ⟨m, hm, by simp⟩)
  have hrun : m'.runId = m.runId := by simpa using List.find?_some hm'
  have heq : m' = m := List.inj_on_of_nodup_map h (List.mem_of_find?_eq_some hm') hm hrun
  simp only [Chat.usageOf, loadAssistantMessageByRunId, hm', Option.map_some, heq]

/-! ## The invariant -/

/-- The totals of a stream are what its run has used, and a stream that is over has stored them. -/
structure Accounted (s : State) (stream : Stream) : Prop where
  used : balance s.usages stream.runId = stream.usageTotals
  stored : stream.completes = false → stream.Shows →
    usageOf s.messages stream.runId = some stream.usageTotals
  /-- What the message shows before the stream has stored anything. -/
  before : stream.Shows ∨ usageOf s.messages stream.runId = none ∨ usageOf s.messages stream.runId = some 0

/-- **The books of a session.** -/
structure Booked (s : State) : Prop where
  totals : s.totals = total s.usages
  nodup : OnePerRun s.messages
  apart : ∀ j k web web' stream stream', s.tasks j = some ⟨web, .streaming stream⟩ →
    s.tasks k = some ⟨web', .streaming stream'⟩ → stream.runId = stream'.runId → j = k
  streams : ∀ j web stream, s.tasks j = some ⟨web, .streaming stream⟩ → Accounted s stream
  settled : ∀ runId u, usageOf s.messages runId = some u → ¬ s.Streams runId → u = balance s.usages runId
  spent : ∀ runId, balance s.usages runId ≠ 0 → s.Streams runId ∨ (usageOf s.messages runId).isSome

theorem booked_start : Booked {} where
  totals := rfl
  nodup := .nil
  apart _ _ _ _ _ _ h := by simp at h
  streams _ _ _ h := by simp at h
  settled _ _ h := by simp [usageOf, loadAssistantMessageByRunId] at h
  spent _ h := by simp at h

variable {s t : State} {python : Python}

/-- Booked sessions are balanced. -/
theorem Booked.balanced (h : Booked s) : Balanced s where
  message m hm hstreams := h.settled m.runId m.usage (h.nodup.usageOf hm) hstreams
  session hstreams := by
    have hmessage : ∀ m ∈ s.messages, balance s.usages m.runId = m.usage := fun m hm =>
      (h.settled m.runId m.usage (h.nodup.usageOf hm) (hstreams m.runId)).symm
    have hspent : ∀ k, balance s.usages k ≠ 0 → k ∈ (s.messages.map AssistantMessage.runId).toFinset := by
      intro k hk
      obtain hstream | hsome := h.spent k hk
      · exact absurd hstream (hstreams k)
      · obtain ⟨u, hu⟩ := Option.isSome_iff_exists.mp hsome
        obtain ⟨m, hm, -⟩ := Option.map_eq_some_iff.mp hu
        refine List.mem_toFinset.mpr (List.mem_map.mpr ⟨m, List.mem_of_find?_eq_some hm, ?_⟩)
        simpa using List.find?_some hm
    calc s.totals = total s.usages := h.totals
      _ = ∑ k ∈ (s.messages.map AssistantMessage.runId).toFinset, balance s.usages k :=
        (sum_balance_eq_total hspent).symm
      _ = ((s.messages.map AssistantMessage.runId).map (balance s.usages)).sum := List.sum_toFinset _ h.nodup
      _ = (s.messages.map AssistantMessage.usage).sum := by
        rw [List.map_map]
        exact congrArg List.sum (List.map_congr_left fun m hm => hmessage m hm)

/-! ## Steps on one run -/

/-- A step on a task that is the only one to stream under its run id, and that leaves the other runs alone. -/
structure OnRun (s t : State) (i : ℕ) (runId : RunId) : Prop where
  others : ∀ j, j ≠ i → t.tasks j = s.tasks j
  alone : ∀ j, j ≠ i → ∀ web stream, s.tasks j = some ⟨web, .streaming stream⟩ → stream.runId ≠ runId
  own : ∀ web stream, s.tasks i = some ⟨web, .streaming stream⟩ → stream.runId = runId
  usage : ∀ r, r ≠ runId → usageOf t.messages r = usageOf s.messages r
  balance : ∀ r, r ≠ runId → balance t.usages r = balance s.usages r

/-- Where the task streams, nobody else streams under its run id. -/
theorem Booked.alone (h : Booked s) {i : ℕ} {web : Bool} {stream : Stream}
    (htask : s.tasks i = some ⟨web, .streaming stream⟩) :
    ∀ j, j ≠ i → ∀ web' stream', s.tasks j = some ⟨web', .streaming stream'⟩ → stream'.runId ≠ stream.runId :=
  fun j hj web' stream' htask' hrun => hj (h.apart j i web' web stream' stream htask' htask hrun)

/-- The streams under another run id are the same. -/
theorem OnRun.streams_iff {i : ℕ} {runId r : RunId} (h : OnRun s t i runId) (hr : r ≠ runId)
    (hnew : ∀ web stream, t.tasks i = some ⟨web, .streaming stream⟩ → stream.runId = runId) :
    t.Streams r ↔ s.Streams r := by
  constructor
  · rintro ⟨j, web, stream, htask, rfl⟩
    have hj : j ≠ i := by
      rintro rfl
      exact hr (hnew web stream htask)
    exact ⟨j, web, stream, (h.others j hj).symm.trans htask, rfl⟩
  · rintro ⟨j, web, stream, htask, rfl⟩
    have hj : j ≠ i := by
      rintro rfl
      exact hr (h.own web stream htask)
    exact ⟨j, web, stream, (h.others j hj).trans htask, rfl⟩

/-- A stream of another run is accounted for as before. -/
theorem OnRun.accounted {i : ℕ} {runId : RunId} (h : OnRun s t i runId) {stream : Stream}
    (hr : stream.runId ≠ runId) (ha : Accounted s stream) : Accounted t stream :=
  ⟨(h.balance _ hr).trans ha.used, fun hc hs => (h.usage _ hr).trans (ha.stored hc hs),
    by rw [h.usage _ hr]; exact ha.before⟩

/-- **The task goes on streaming.** -/
theorem Booked.streaming (h : Booked s) {i : ℕ} {web : Bool} {stream : Stream} (hon : OnRun s t i stream.runId)
    (htotals : t.totals = total t.usages) (hnodup : OnePerRun t.messages)
    (htask : t.tasks i = some ⟨web, .streaming stream⟩) (haccounted : Accounted t stream) : Booked t := by
  have hnew : ∀ web' stream', t.tasks i = some ⟨web', .streaming stream'⟩ → stream'.runId = stream.runId := by
    intro web' stream' htask'
    rw [htask, Option.some.injEq, Task.mk.injEq, Work.streaming.injEq] at htask'
    rw [htask'.2]
  have hstreams : t.Streams stream.runId := ⟨i, web, stream, htask, rfl⟩
  refine ⟨htotals, hnodup, ?_, ?_, ?_, ?_⟩
  · intro j k wj wk sj sk hj hk hrun
    by_cases hji : j = i
    · by_cases hki : k = i
      · rw [hji, hki]
      · rw [hji] at hj
        rw [hon.others k hki] at hk
        exact absurd (hrun.symm.trans (hnew wj sj hj)) (hon.alone k hki wk sk hk)
    · rw [hon.others j hji] at hj
      by_cases hki : k = i
      · rw [hki] at hk
        exact absurd (hrun.trans (hnew wk sk hk)) (hon.alone j hji wj sj hj)
      · rw [hon.others k hki] at hk
        exact h.apart j k wj wk sj sk hj hk hrun
  · intro j wj sj hj
    by_cases hji : j = i
    · subst hji
      rw [htask, Option.some.injEq, Task.mk.injEq, Work.streaming.injEq] at hj
      rw [← hj.2]
      exact haccounted
    · rw [hon.others j hji] at hj
      exact hon.accounted (hon.alone j hji wj sj hj) (h.streams j wj sj hj)
  · intro r u hu hnot
    have hr : r ≠ stream.runId := fun heq => hnot (heq ▸ hstreams)
    rw [hon.usage r hr] at hu
    rw [hon.balance r hr]
    exact h.settled r u hu fun hs => hnot ((hon.streams_iff hr hnew).mpr hs)
  · intro r hne
    by_cases hr : r = stream.runId
    · exact .inl (hr ▸ hstreams)
    · rw [hon.balance r hr] at hne
      rw [hon.streams_iff hr hnew, hon.usage r hr]
      exact h.spent r hne

/-- **The task ends.** -/
theorem Booked.closing (h : Booked s) {i : ℕ} {runId : RunId} (hon : OnRun s t i runId)
    (htotals : t.totals = total t.usages) (hnodup : OnePerRun t.messages) (htask : t.tasks i = none)
    (hsettled : ∀ u, usageOf t.messages runId = some u → u = balance t.usages runId)
    (hspent : balance t.usages runId ≠ 0 → (usageOf t.messages runId).isSome) : Booked t := by
  have hnew : ∀ web stream, t.tasks i = some ⟨web, .streaming stream⟩ → stream.runId = runId := by
    intro web stream h
    rw [htask] at h
    cases h
  refine ⟨htotals, hnodup, ?_, ?_, ?_, ?_⟩
  · intro j k wj wk sj sk hj hk hrun
    have hji : j ≠ i := fun hji => by rw [hji, htask] at hj; cases hj
    have hki : k ≠ i := fun hki => by rw [hki, htask] at hk; cases hk
    rw [hon.others j hji] at hj
    rw [hon.others k hki] at hk
    exact h.apart j k wj wk sj sk hj hk hrun
  · intro j wj sj hj
    have hji : j ≠ i := fun hji => by rw [hji, htask] at hj; cases hj
    rw [hon.others j hji] at hj
    exact hon.accounted (hon.alone j hji wj sj hj) (h.streams j wj sj hj)
  · intro r u hu hnot
    by_cases hr : r = runId
    · subst hr
      exact hsettled u hu
    · rw [hon.usage r hr] at hu
      rw [hon.balance r hr]
      exact h.settled r u hu fun hs => hnot ((hon.streams_iff hr hnew).mpr hs)
  · intro r hne
    by_cases hr : r = runId
    · subst hr
      exact .inr (hspent hne)
    · rw [hon.balance r hr] at hne
      rw [hon.streams_iff hr hnew, hon.usage r hr]
      exact h.spent r hne

/-- **A step that is about no stream.** -/
theorem Booked.idle (h : Booked s) (htotals : t.totals = s.totals) (husages : t.usages = s.usages)
    (hnodup : OnePerRun t.messages) (husage : ∀ r, usageOf t.messages r = usageOf s.messages r)
    (htasks : ∀ j web stream, t.tasks j = some ⟨web, .streaming stream⟩ ↔
      s.tasks j = some ⟨web, .streaming stream⟩) : Booked t := by
  have hstreams (r : RunId) : t.Streams r ↔ s.Streams r := by
    simp only [State.Streams, htasks]
  refine ⟨by rw [htotals, husages, h.totals], hnodup, ?_, ?_, ?_, ?_⟩
  · intro j k wj wk sj sk hj hk
    exact h.apart j k wj wk sj sk ((htasks ..).mp hj) ((htasks ..).mp hk)
  · intro j wj sj hj
    obtain ⟨hused, hstored, hbefore⟩ := h.streams j wj sj ((htasks ..).mp hj)
    refine ⟨by rw [husages, hused], ?_, ?_⟩
    · rw [husage]
      exact hstored
    · rw [husage]
      exact hbefore
  · intro r u hu hnot
    rw [husage] at hu
    rw [husages]
    exact h.settled r u hu (by rwa [← hstreams])
  · intro r hne
    rw [husages] at hne
    rw [hstreams, husage]
    exact h.spent r hne

/-! ## Persisting a stream -/

/-- What a stream persists, if it has something to show. -/
theorem usageOf_persistCurrent (messages : List AssistantMessage) (stream : Stream) (status : AssistantStatus)
    (r : RunId) : usageOf (persistCurrentAssistant messages stream status) r =
      if stream.Shows ∧ r = stream.runId then some stream.usageTotals else usageOf messages r := by
  unfold persistCurrentAssistant
  by_cases hshows : stream.Shows
  · rw [if_neg hshows, usageOf_persist]
    simp [hshows]
  · have hempty := not_not.mp hshows
    rw [if_pos hempty]
    simp [hshows]

theorem OnePerRun.persistCurrent {messages : List AssistantMessage} (h : OnePerRun messages) (stream : Stream)
    (status : AssistantStatus) : OnePerRun (persistCurrentAssistant messages stream status) := by
  unfold persistCurrentAssistant
  split
  · exact h
  · exact h.persist ..

/-- Segments do not go away. -/
theorem apply_ne_nil (python : Python) (locale : Option Text) {segments : List Segment} (h : segments ≠ [])
    (event : Event) : applyRenderSegmentsEvent python locale segments event ≠ [] := by
  obtain ⟨-, htext, heq⟩ | ⟨id, patch, -, -, -, heq⟩ | ⟨tool, -, -, -, heq⟩ | ⟨-, -, heq⟩ :=
    apply_cases python locale segments event
  · obtain ⟨init, last, -, happend⟩ | ⟨-, happend⟩ := appendMarkdown_cases segments htext <;> simp [heq, happend]
  · obtain ⟨-, hupsert⟩ | ⟨before, a, after, -, -, -, hupsert⟩ :=
      upsert_cases Segment.callId id patch.writeSegment (.tool patch.fresh) segments <;> simp [heq, hupsert]
  · simp [heq]
  · rwa [heq]

/-- Nor does what there is to show. -/
theorem Stream.Shows.receive {stream : Stream} (h : stream.Shows) (event : AgentEvent) :
    (stream.receive python event).Shows := by
  simp only [Stream.Shows, List.isEmpty_iff, not_and_or] at h ⊢
  obtain htext | hsegments := h
  · left
    cases event <;> simp [Stream.receive, htext]
  · right
    rw [receive_renderSegments]
    exact apply_ne_nil python _ hsegments _

/-- A note is added to what is there. -/
theorem Stream.note_shows (stream : Stream) (note : Text) : (stream.note note).Shows ↔ stream.Shows := by
  unfold Stream.note
  split
  · rfl
  · rename_i htext
    simp [Stream.Shows, htext]

@[simp] theorem Stream.note_usageTotals (stream : Stream) (note : Text) :
    (stream.note note).usageTotals = stream.usageTotals := by
  unfold Stream.note
  split <;> rfl

/-- A stream that has persisted what it has. -/
theorem Accounted.persist {stream stream' : Stream} (ha : Accounted s stream) {status : AssistantStatus}
    (hrun : stream'.runId = stream.runId) (husage : stream'.usageTotals = stream.usageTotals)
    (hshows : stream.Shows → stream'.Shows) (husages : t.usages = s.usages)
    (hmessages : ∀ r, usageOf t.messages r = usageOf (persistCurrentAssistant s.messages stream' status) r) :
    Accounted t stream' := by
  refine ⟨by rw [husages, hrun, husage, ha.used], fun _ hs => ?_, ?_⟩
  · rw [hmessages, usageOf_persistCurrent, if_pos ⟨hs, rfl⟩]
  · by_cases hs : stream'.Shows
    · exact .inl hs
    · have hbefore := ha.before.resolve_left fun h => hs (hshows h)
      right
      rw [hmessages, usageOf_persistCurrent, if_neg (fun h => hs h.1), hrun]
      exact hbefore

/-! ## Every step -/

/-- A step on a stream leaves the other runs alone. -/
theorem Booked.onRun (h : Booked s) {i : ℕ} {web : Bool} {stream : Stream} {task : Option Task}
    (htask : s.tasks i = some ⟨web, .streaming stream⟩) (htasks : t.tasks = Function.update s.tasks i task)
    (husage : ∀ r, r ≠ stream.runId → usageOf t.messages r = usageOf s.messages r)
    (hbalance : ∀ r, r ≠ stream.runId → Ledgers.balance t.usages r = Ledgers.balance s.usages r) :
    OnRun s t i stream.runId where
  others j hj := by rw [htasks, Function.update_of_ne hj]
  alone := h.alone htask
  own web' stream' htask' := by
    rw [htask, Option.some.injEq, Task.mk.injEq, Work.streaming.injEq] at htask'
    rw [htask'.2]
  usage := husage
  balance := hbalance

/-- A stream that has persisted nothing in this step. -/
theorem Accounted.same {stream stream' : Stream} (ha : Accounted s stream) (hrun : stream'.runId = stream.runId)
    (husage : stream'.usageTotals = stream.usageTotals) (hshows : stream.Shows → stream'.Shows)
    (hstored : stream'.completes = false → stream.completes = false ∧ (stream'.Shows → stream.Shows))
    (husages : t.usages = s.usages) (hmessages : ∀ r, usageOf t.messages r = usageOf s.messages r) :
    Accounted t stream' := by
  refine ⟨by rw [husages, hrun, husage, ha.used], fun hc hs => ?_, ?_⟩
  · rw [hmessages, hrun, husage]
    exact ha.stored (hstored hc).1 ((hstored hc).2 hs)
  · rw [hmessages, hrun]
    exact ha.before.imp_left hshows

/-- **A stream receives an event.** -/
theorem Booked.receive (h : Booked s) {i : ℕ} {web : Bool} {stream : Stream}
    (htask : s.tasks i = some ⟨web, .streaming stream⟩) {event : AgentEvent} (haccepts : stream.accepts event = true) :
    Booked (receive python s i web stream event) := by
  have ha := h.streams i web stream htask
  have htasks : (Chat.receive python s i web stream event).tasks =
      Function.update s.tasks i (some ⟨web, .streaming (stream.receive python event)⟩) := receive_tasks event
  have htask' : (Chat.receive python s i web stream event).tasks i =
      some ⟨web, .streaming (stream.receive python event)⟩ := by rw [htasks, Function.update_self]
  have hshows (hs : stream.Shows) : (stream.receive python event).Shows := hs.receive event
  -- an event that is not persisted and uses no tokens
  have hordinary (hmessages : (Chat.receive python s i web stream event).messages = s.messages)
      (husages : (Chat.receive python s i web stream event).usages = s.usages)
      (htotals : (Chat.receive python s i web stream event).totals = s.totals)
      (husage : (stream.receive python event).usageTotals = stream.usageTotals)
      (hstored : (stream.receive python event).completes = false →
        stream.completes = false ∧ ((stream.receive python event).Shows → stream.Shows)) :
      Booked (Chat.receive python s i web stream event) := by
    have hon := h.onRun (t := Chat.receive python s i web stream event) htask htasks
      (fun r _ => by rw [hmessages]) (fun r _ => by rw [husages])
    rw [← @Stream.receive_runId python stream event] at hon
    refine h.streaming hon (by rw [htotals, husages, h.totals]) (by rw [hmessages]; exact h.nodup) htask' ?_
    exact ha.same (by simp) husage hshows hstored husages fun r => by rw [hmessages]
  -- an event at which the stream is persisted
  have hpersisted {status : AssistantStatus}
      (hmessages : (Chat.receive python s i web stream event).messages =
        persistCurrentAssistant s.messages (stream.receive python event) status)
      (husages : (Chat.receive python s i web stream event).usages = s.usages)
      (htotals : (Chat.receive python s i web stream event).totals = s.totals)
      (husage : (stream.receive python event).usageTotals = stream.usageTotals) :
      Booked (Chat.receive python s i web stream event) := by
    have hon := h.onRun (t := Chat.receive python s i web stream event) htask htasks
      (fun r hr => by rw [hmessages, usageOf_persistCurrent, Stream.receive_runId, if_neg fun h => hr h.2])
      (fun r _ => by rw [husages])
    rw [← @Stream.receive_runId python stream event] at hon
    refine h.streaming hon (by rw [htotals, husages, h.totals])
      (by rw [hmessages]; exact h.nodup.persistCurrent _ _) htask' ?_
    exact ha.persist (by simp) husage hshows husages fun r => by rw [hmessages]
  cases event with
  | content text =>
    refine hordinary rfl rfl rfl rfl fun hc => ?_
    simp_all [Stream.accepts, Stream.completes, Stream.receive]
  | toolCall toolCallId toolName toolArgs =>
    refine hordinary rfl rfl rfl rfl fun hc => ?_
    simp_all [Stream.accepts, Stream.completes, Stream.receive]
  | toolResult toolCallId toolName result executionTimeMs skillExecutionId visualization =>
    refine hordinary rfl rfl rfl rfl fun hc => ?_
    simp_all [Stream.accepts, Stream.completes, Stream.receive]
  | other type => exact hordinary rfl rfl rfl rfl fun hc => ⟨hc, id⟩
  | approvalRequest approvalId toolCallId toolName toolArgs summary riskLevel riskReason =>
    exact hpersisted rfl rfl rfl rfl
  | error => exact hpersisted rfl rfl rfl rfl
  | usage u =>
    have husages : (Chat.receive python s i web stream (.usage u)).usages = s.usages ++ [(stream.runId, u)] := rfl
    have hon := h.onRun (t := Chat.receive python s i web stream (.usage u)) htask htasks (fun r _ => rfl)
      (fun r hr => by rw [husages, balance_append_of_ne _ hr])
    rw [← @Stream.receive_runId python stream (.usage u)] at hon
    refine h.streaming hon ?_ h.nodup htask' ⟨?_, fun hc => ?_, ?_⟩
    · rw [husages, total_append_singleton]
      exact congrArg (· + u) h.totals
    · rw [husages, Stream.receive_runId, balance_append_self, ha.used]
      rfl
    · simp_all [Stream.accepts, Stream.completes, Stream.receive]
    · exact ha.before.imp_left hshows

/-- **A stream ends.** -/
theorem Booked.ends (h : Booked s) {i : ℕ} {web : Bool} {stream : Stream}
    (htask : s.tasks i = some ⟨web, .streaming stream⟩) (hok : stream.usageTotals = 0 ∨ stream.Shows)
    (htasks : t.tasks = Function.update s.tasks i none) (htotals : t.totals = s.totals)
    (husages : t.usages = s.usages) (hnodup : OnePerRun t.messages)
    (hmessages : ∀ r, usageOf t.messages r =
      if stream.Shows ∧ r = stream.runId then some stream.usageTotals else usageOf s.messages r) : Booked t := by
  have ha := h.streams i web stream htask
  have hon := h.onRun (t := t) htask htasks (fun r hr => by rw [hmessages, if_neg fun h => hr h.2])
    (fun r _ => by rw [husages])
  refine h.closing hon (by rw [htotals, husages, h.totals]) hnodup (by rw [htasks, Function.update_self]) ?_ ?_
  · intro u hu
    rw [hmessages] at hu
    rw [husages, ha.used]
    by_cases hs : stream.Shows
    · rw [if_pos ⟨hs, rfl⟩] at hu
      exact (Option.some.inj hu).symm
    · -- nothing was ever persisted by this stream, and no tokens were used
      rw [if_neg fun h => hs h.1] at hu
      obtain hnone | hzero := ha.before.resolve_left hs
      · rw [hnone] at hu
        cases hu
      · rw [hzero] at hu
        rw [hok.resolve_right hs]
        exact (Option.some.inj hu).symm
  · intro hne
    rw [husages, ha.used] at hne
    rw [hmessages, if_pos ⟨hok.resolve_left hne, rfl⟩]
    rfl

/-- **A stream begins.** -/
theorem Booked.opens (h : Booked s) {i : ℕ} {web : Bool} {runId : RunId} {turn : ℕ} {locale : Option Text}
    (hunused : s.Unused runId) (hfree : ∀ web stream, s.tasks i ≠ some ⟨web, .streaming stream⟩)
    (htasks : t.tasks = Function.update s.tasks i
      (some ⟨web, .streaming (openStream s runId turn locale)⟩))
    (hmessages : t.messages = s.messages) (husages : t.usages = s.usages) (htotals : t.totals = s.totals) :
    Booked t := by
  have hon : OnRun s t i (openStream s runId turn locale).runId :=
    { others := fun j hj => by rw [htasks, Function.update_of_ne hj]
      alone := fun j _ web' stream' htask' hrun => hunused.2 ⟨j, web', stream', htask', hrun⟩
      own := fun web' stream' htask' => absurd htask' (hfree web' stream')
      usage := fun r _ => by rw [hmessages]
      balance := fun r _ => by rw [husages] }
  refine h.streaming hon (by rw [htotals, husages, h.totals]) (by rw [hmessages]; exact h.nodup)
    (by rw [htasks, Function.update_self]) ⟨?_, ?_, .inr ?_⟩
  · rw [husages]
    exact hunused.1
  · -- a stream that has just begun is not over
    intro hover
    cases hover
  · rw [hmessages]
    show usageOf s.messages runId = none ∨ usageOf s.messages runId = some 0
    cases husage : usageOf s.messages runId with
    | none => exact .inl rfl
    | some u =>
      right
      rw [h.settled runId u husage hunused.2, hunused.1]

/-- **A stream runs out of time.** -/
theorem Booked.timeOut (h : Booked s) {i : ℕ} {web : Bool} {stream : Stream}
    (htask : s.tasks i = some ⟨web, .streaming stream⟩) (note : Text) :
    Booked (timeOut python s i web stream note) := by
  have hmessages : (Chat.timeOut python s i web stream note).messages =
      persistCurrentAssistant s.messages (stream.note note) .partialResponse := timeOut_messages note
  have husages : (Chat.timeOut python s i web stream note).usages = s.usages := by
    simp only [Chat.timeOut, State.persistCurrent]
    split <;> rfl
  have htotals : (Chat.timeOut python s i web stream note).totals = s.totals := by
    simp only [Chat.timeOut, State.persistCurrent]
    split <;> rfl
  have hon := h.onRun (t := Chat.timeOut python s i web stream note) htask (timeOut_tasks note)
    (fun r hr => by
      rw [hmessages, usageOf_persistCurrent, Stream.note_runId]
      exact if_neg fun h => hr h.2)
    (fun r _ => by rw [husages])
  rw [← @Stream.note_runId stream note] at hon
  have htask' : (Chat.timeOut python s i web stream note).tasks i =
      some ⟨web, .streaming { stream.note note with terminal := true, inFlight := none }⟩ := by
    rw [timeOut_tasks, Function.update_self]
  refine h.streaming ?_ (by rw [htotals, husages, h.totals]) ?_ htask' ?_
  · exact hon
  · rw [hmessages]
    exact h.nodup.persistCurrent _ _
  · exact (h.streams i web stream htask).persist (by simp) (by simp) (stream.note_shows note).mpr husages
      fun r => by rw [hmessages]; rfl

/-- **A stream is done.** -/
theorem Booked.finish (h : Booked s) {i : ℕ} {web : Bool} {stream : Stream} (conclusion : Bool)
    (htask : s.tasks i = some ⟨web, .streaming stream⟩) (hok : stream.usageTotals = 0 ∨ stream.Shows) :
    Booked (finish s i web stream conclusion) := by
  have ha := h.streams i web stream htask
  by_cases hcompletes : stream.completes = true
  · have hmessages : (Chat.finish s i web stream conclusion).messages =
        persistCurrentAssistant s.messages stream .complete := by simp [hcompletes]
    refine h.ends htask hok (finish_tasks conclusion) ?_ ?_ ?_ fun r => ?_
    · simp [Chat.finish, hcompletes, State.persistCurrent, State.closeTask, State.storeDiagnosisEvent]
    · simp [Chat.finish, hcompletes, State.persistCurrent, State.closeTask, State.storeDiagnosisEvent]
    · rw [hmessages]
      exact h.nodup.persistCurrent _ _
    · rw [hmessages, usageOf_persistCurrent]
  · -- it had stored what it has to show when it paused or failed
    simp only [Bool.not_eq_true] at hcompletes
    have hmessages : (Chat.finish s i web stream conclusion).messages = s.messages := by simp [hcompletes]
    refine h.ends htask hok (finish_tasks conclusion) ?_ ?_ (by rw [hmessages]; exact h.nodup) fun r => ?_
    · simp [Chat.finish, hcompletes, State.closeTask, State.storeDiagnosisEvent]
    · simp [Chat.finish, hcompletes, State.closeTask, State.storeDiagnosisEvent]
    · rw [hmessages]
      split
      · rename_i hshows
        rw [hshows.2]
        exact ha.stored hcompletes hshows.1
      · rfl

/-- **A stream is cancelled.** -/
theorem Booked.cancel (h : Booked s) {i : ℕ} {web : Bool} {stream : Stream} (note : Text)
    (htask : s.tasks i = some ⟨web, .streaming stream⟩) (hok : stream.usageTotals = 0 ∨ stream.Shows) :
    Booked (cancel s i web stream note) := by
  have ha := h.streams i web stream htask
  by_cases hpaused : stream.pausedForApproval = true
  · have hmessages : (Chat.cancel s i web stream note).messages = s.messages := by simp [hpaused]
    refine h.ends htask hok (cancel_tasks note) ?_ ?_ (by rw [hmessages]; exact h.nodup) fun r => ?_
    · simp [Chat.cancel, hpaused, State.closeTask]
    · simp [Chat.cancel, hpaused, State.closeTask]
    · rw [hmessages]
      split
      · rename_i hshows
        rw [hshows.2]
        exact ha.stored (by simp [Stream.completes, hpaused]) hshows.1
      · rfl
  · simp only [Bool.not_eq_true] at hpaused
    have hmessages : (Chat.cancel s i web stream note).messages =
        persistCurrentAssistant s.messages (stream.note note) .cancelled := by simp [hpaused]
    refine h.ends htask hok (cancel_tasks note) ?_ ?_ ?_ fun r => ?_
    · simp [Chat.cancel, hpaused, State.persistCurrent, State.closeTask]
    · simp [Chat.cancel, hpaused, State.persistCurrent, State.closeTask]
    · rw [hmessages]
      exact h.nodup.persistCurrent _ _
    · rw [hmessages, usageOf_persistCurrent]
      simp only [Stream.note_runId, Stream.note_usageTotals, Stream.note_shows]

/-- A task that goes from one stage to another, or ends, streams neither before nor after. -/
theorem streaming_iff_update {tasks : ℕ → Option Task} {i : ℕ} {task : Option Task}
    (hold : ∀ web stream, tasks i ≠ some ⟨web, .streaming stream⟩)
    (hnew : ∀ web stream, task ≠ some ⟨web, .streaming stream⟩) (j : ℕ) (web : Bool) (stream : Stream) :
    Function.update tasks i task j = some ⟨web, .streaming stream⟩ ↔
      tasks j = some ⟨web, .streaming stream⟩ := by
  by_cases hj : j = i
  · rw [hj, Function.update_self]
    exact iff_of_false (hnew web stream) (hold web stream)
  · rw [Function.update_of_ne hj]

/-- What is written to the segments of a message does not touch its usage. -/
theorem Booked.updateSegments (h : Booked s) (runId : RunId) (f : List Segment → List Segment) :
    Booked { s with messages := updateSegments s.messages runId f } :=
  h.idle rfl rfl (h.nodup.updateSegments runId f) (fun r => usageOf_updateSegments s.messages runId r f)
    fun _ _ _ => Iff.rfl

/-- **An approval is resolved further.** -/
theorem Booked.advance (h : Booked s) {i : ℕ} {web : Bool} {pending : Pending} {approved : Bool} {stage : Stage}
    (htask : s.tasks i = some ⟨web, .resolving pending approved stage⟩) (outcome : Outcome)
    (hok : stage = .returned → s.Unused pending.runId) :
    Booked (advance python s i web pending approved stage outcome) := by
  have hold : ∀ web stream, s.tasks i ≠ some ⟨web, .streaming stream⟩ := fun _ _ => by simp [htask]
  have hresolve (event : Event) := h.updateSegments pending.runId fun renderSegments =>
    applyRenderSegmentsEvent python none renderSegments event
  cases stage with
  | opened =>
    cases approved
    · have hreject := (hresolve (pending.resolvedEvent false)).updateSegments pending.runId fun renderSegments =>
        upsertToolRenderSegment renderSegments pending.rejection
      exact hreject.idle rfl rfl hreject.nodup (fun r => rfl) (streaming_iff_update hold (by simp))
    · have hresolved := hresolve (pending.resolvedEvent true)
      exact hresolved.idle rfl rfl hresolved.nodup (fun r => rfl) (streaming_iff_update hold (by simp))
  | confirmed =>
    have hcalled := hresolve pending.callEvent
    exact hcalled.idle rfl rfl hcalled.nodup (fun r => rfl) (streaming_iff_update hold (by simp))
  | called =>
    have hreturned := hresolve (pending.resultEvent outcome)
    exact hreturned.idle rfl rfl hreturned.nodup (fun r => rfl) (streaming_iff_update hold (by simp))
  | returned => exact h.opens (hok rfl) hold (advance_tasks ..) rfl rfl rfl

/-- The books are kept by every step that accounts for its tokens. -/
theorem Booked.step (h : Booked s) {label : Label} (hstep : Steps python s label t) (hok : Accounts s label) :
    Booked t := by
  induction hstep with
  | start hfree hweb => exact h.opens hok (fun _ _ => by simp [hfree]) rfl rfl rfl rfl
  | receive htask hflight haccepts => exact h.receive htask haccepts
  | @emit i web stream event htask hflight =>
    have hon := h.onRun
      (t := (s.setTask i ⟨web, .streaming { stream with inFlight := none }⟩).emit python web event)
      htask rfl (fun r _ => rfl) (fun r _ => rfl)
    have htask' : ((s.setTask i ⟨web, .streaming { stream with inFlight := none }⟩).emit python web event).tasks i =
        some ⟨web, .streaming { stream with inFlight := none }⟩ := Function.update_self ..
    refine h.streaming ?_ h.totals h.nodup htask' ?_
    · exact hon
    · exact (h.streams i web stream htask).same rfl rfl id (fun hc => ⟨hc, id⟩) rfl fun r => rfl
  | timeOut htask => exact h.timeOut htask _
  | cancel htask => exact h.cancel _ htask (hok _ _ htask)
  | abandon htask =>
    exact h.idle rfl rfl h.nodup (fun r => rfl) (streaming_iff_update (by simp [htask]) (by simp))
  | finish htask hflight => exact h.finish _ htask (hok _ _ htask)
  | resolve hfree hpending =>
    exact h.idle rfl rfl h.nodup (fun r => rfl) (streaming_iff_update (by simp [hfree]) (by simp))
  | @advance i outcome web pending approved stage htask =>
    refine h.advance htask outcome ?_
    rintro rfl
    exact hok web pending approved htask

/-- **In a run of such steps the tokens are accounted for.** -/
theorem balanced_of_run (python : Python) {labels : List Label} {t : State}
    (h : Run (Chat.step python) Accounts {} labels t) : Balanced t :=
  (h.invariant (I := Booked) (fun _ _ _ hI hok hs => hI.step (steps_of_step hs) hok) booked_start).balanced

/-- A turn without an approval. -/
def answeredTurn : List Label := [
  .start 0 20250101120000 true none,
  .receive 0 (.content "Done.".toList),
  .receive 0 (.usage ⟨400, 50, 450⟩),
  .finish 0 false]

theorem balanced_answeredTurn : Balanced ((exec (step .plain) Always {} answeredTurn).getD {}) := by
  refine @balanced_of_run .plain answeredTurn _ ?_
  refine .cons ⟨rfl, ?_⟩ rfl (.cons trivial rfl (.cons trivial rfl (.cons ?_ rfl (.nil _))))
  · rintro ⟨j, web, stream, htask, -⟩
    cases htask
  · intro web stream htask
    cases htask
    exact .inr (by decide)

/-- The session after a turn that goes on after an approval. -/
def resumedState : State := (exec (step .plain) Always {} resumedTurn).getD {}

/-- **After an approval the tokens are counted anew**: the session has used 1450, its message shows 450. -/
theorem resumedTurn_unbalanced :
    Run (step .plain) Always {} resumedTurn resumedState ∧ ¬ Balanced resumedState := by
  have hrun : Run (step .plain) Always {} resumedTurn resumedState := .of_isSome (by decide)
  refine ⟨hrun, fun hbalanced => ?_⟩
  -- the only task of the turn is over
  have htasks : ∀ j, resumedState.tasks j = none := by
    intro j
    by_cases hj : j = 0
    · subst hj
      exact Option.isNone_iff_eq_none.mp (by decide)
    · have honly : ∀ label ∈ resumedTurn, label.task = 0 := by simp [resumedTurn, Label.task]
      exact tasks_of_run hrun fun label hlabel => by rwa [honly label hlabel]
  have htotals := hbalanced.session fun runId ⟨j, web, stream, htask, _⟩ => by simp [htasks] at htask
  revert htotals
  decide

end DBClaw.Chat
