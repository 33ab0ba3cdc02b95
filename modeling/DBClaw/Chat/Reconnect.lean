import DBClaw.Chat.Accounting

/-! # Reconnecting to a stream
A client that reconnects is sent the state that the router keeps from the emitted events. The stream keeps its
own from the events before they are emitted, and goes on from what its run has stored. The two are the same
between two events, unless the router's state began empty where the stream did not: it does so with every
approval. -/

namespace DBClaw.Chat

open Runs Upserts

/-! ## What is sent and what is persisted -/

/-- What a message shows. -/
def AssistantMessage.shown (m : AssistantMessage) : StreamState := ⟨m.content, m.renderSegments⟩

/-- What a stream shows. -/
def Stream.shown (stream : Stream) : StreamState := ⟨stream.fullResponse, stream.renderSegments⟩

namespace State

variable (s : State)

/-- What is stored under a run id. -/
def stored (runId : RunId) : StreamState :=
  ((loadAssistantMessageByRunId s.messages runId).map AssistantMessage.shown).getD {}

/-- What would be stored if a task stopped: a stream persists its locals, the resolution of an approval writes
each event to the message of its run. -/
def persisted : Work → StreamState
  | .streaming stream => stream.shown
  | .resolving pending _ _ => s.stored pending.runId

/-- `content` and `render_segments` of `stream_resuming`. -/
def sent : StreamState := s.live.getD {}

end State

/-- **What is sent to a client that reconnects** is what would be persisted. -/
def Agree (s : State) : Prop :=
  ∀ i task, s.activeTask = some i → s.tasks i = some task → s.sent = s.persisted task.work

variable (python : Python)

/-- The event in flight, if any, does not show. -/
def State.QuietAt (s : State) (i : ℕ) : Prop :=
  ∀ stream, s.tasks i = some ⟨true, .streaming stream⟩ →
    ∀ event ∈ stream.inFlight, updateStreamState python s.sent event = s.sent

/-- Nothing is in flight to the browser that shows. -/
def Quiet (s : State) : Prop := ∀ i, s.activeTask = some i → s.QuietAt python i

/-- **The condition on a step**: the router starts no stream under a run id that has something stored, it
resolves no approval, and a stream does not time out with an event in flight that shows. -/
def Mirrored (s : State) : Label → Prop
  | .start _ second web _ => web = true → s.stored second = {}
  | .resolve _ _ _ web => web = false
  | .timeOut i _ => s.QuietAt python i
  | _ => True

variable {python} {s t : State}

/-! ## What is stored -/

/-- What a stream persists is what it shows. -/
theorem load_persistCurrent (messages : List AssistantMessage) (stream : Stream) (status : AssistantStatus)
    (r : RunId) : (loadAssistantMessageByRunId (persistCurrentAssistant messages stream status) r).map
        AssistantMessage.shown =
      if stream.Shows ∧ r = stream.runId then some stream.shown
      else (loadAssistantMessageByRunId messages r).map AssistantMessage.shown := by
  unfold persistCurrentAssistant
  by_cases hshows : stream.Shows
  · rw [if_neg hshows, load_persist]
    by_cases hr : r = stream.runId
    · rw [if_pos hr, if_pos ⟨hshows, hr⟩]
      rfl
    · rw [if_neg hr, if_neg fun h => hr h.2]
  · rw [if_pos (not_not.mp hshows), if_neg fun h => hshows h.1]

theorem Stream.Shows.shown_ne {stream : Stream} (h : stream.Shows) : stream.shown ≠ {} := by
  intro heq
  simp only [Stream.shown, StreamState.mk.injEq] at heq
  exact h ⟨heq.1, by rw [heq.2]; rfl⟩

/-- What is stored does not become empty when a stream persists. -/
theorem stored_persistCurrent {runId : RunId} {stream : Stream} {status : AssistantStatus}
    (hmessages : t.messages = persistCurrentAssistant s.messages stream status) (h : s.stored runId ≠ {}) :
    t.stored runId ≠ {} := by
  rw [State.stored, hmessages, load_persistCurrent]
  split
  · rename_i hshows
    exact hshows.1.shown_ne
  · exact h

/-- Nor when an event is written to a message. -/
theorem stored_updateSegments {runId runId' : RunId} {f : List Segment → List Segment}
    (hf : ∀ segments, segments ≠ [] → f segments ≠ [])
    (hmessages : t.messages = updateSegments s.messages runId' f) (h : s.stored runId ≠ {}) :
    t.stored runId ≠ {} := by
  rw [State.stored, hmessages, updateSegments]
  split
  · exact h
  · rename_i m hload
    rw [load_persist]
    split
    · rename_i hrun
      simp only [State.stored, hrun, hload, Option.map_some, Option.getD_some, AssistantMessage.shown,
        ne_eq, StreamState.mk.injEq, not_and_or] at h ⊢
      exact h.imp_right (hf m.renderSegments)
    · exact h

/-- The patch of a tool leaves something. -/
theorem upsertTool_ne_nil (segments : List Segment) (patch : Patch) :
    upsertToolRenderSegment segments patch ≠ [] := by
  unfold upsertToolRenderSegment
  split
  · rename_i id _
    obtain ⟨-, heq⟩ | ⟨before, a, after, -, -, -, heq⟩ :=
      upsert_cases Segment.callId id patch.writeSegment (.tool patch.fresh) segments <;> simp [heq]
  · simp

/-- **What is stored does not become empty.** -/
theorem stored_of_steps {label : Label} (hstep : Steps python s label t) {runId : RunId}
    (h : s.stored runId ≠ {}) : t.stored runId ≠ {} := by
  have happly (event : Event) : ∀ segments, segments ≠ [] →
      applyRenderSegmentsEvent python none segments event ≠ [] :=
    fun segments hsegments => apply_ne_nil python none hsegments event
  cases hstep with
  | start _ _ => exact h
  | @receive i event web stream _ _ _ =>
    cases event with
    | approvalRequest => exact stored_persistCurrent rfl h
    | error => exact stored_persistCurrent rfl h
    | content | toolCall | toolResult | usage | other => exact h
  | emit _ _ => exact h
  | timeOut _ => exact stored_persistCurrent (timeOut_messages _) h
  | @cancel i note web stream _ =>
    by_cases hpaused : stream.pausedForApproval = true
    · simp only [State.stored, cancel_messages, if_pos hpaused]
      exact h
    · exact stored_persistCurrent ((cancel_messages note).trans (if_neg hpaused)) h
  | abandon _ => exact h
  | @finish i conclusion web stream _ _ =>
    by_cases hcompletes : stream.completes = true
    · exact stored_persistCurrent ((finish_messages conclusion).trans (if_pos hcompletes)) h
    · simp only [State.stored, finish_messages, if_neg hcompletes]
      exact h
  | resolve _ _ => exact h
  | @advance i outcome web pending approved stage _ =>
    have hresolve (event : Event) : (s.resolveWith python web pending event).stored runId ≠ {} :=
      stored_updateSegments (happly event) rfl h
    cases stage with
    | opened =>
      cases approved
      · exact stored_updateSegments (s := s.resolveWith python web pending (pending.resolvedEvent false))
          (fun segments _ => upsertTool_ne_nil segments pending.rejection) rfl (hresolve _)
      · exact hresolve (pending.resolvedEvent true)
    | confirmed => exact hresolve pending.callEvent
    | called => exact hresolve (pending.resultEvent outcome)
    | returned => exact h

/-- Who asks for an approval has stored the segment of its call. -/
theorem pendings_of_steps {label : Label} (hstep : Steps python s label t)
    (h : ∀ pending ∈ s.pendings, s.stored pending.runId ≠ {}) :
    ∀ pending ∈ t.pendings, t.stored pending.runId ≠ {} := by
  have hkept (hpendings : ∀ pending ∈ t.pendings, pending ∈ s.pendings) :
      ∀ pending ∈ t.pendings, t.stored pending.runId ≠ {} :=
    fun pending hpending => stored_of_steps hstep (h pending (hpendings pending hpending))
  cases hstep with
  | start _ _ => exact hkept fun _ => id
  | @receive i event web stream htask hflight haccepts =>
    cases event with
    | approvalRequest approvalId toolCallId toolName toolArgs summary riskLevel riskReason =>
      intro pending hpending
      obtain hpending | hpending := List.mem_append.mp hpending
      · exact stored_of_steps (.receive htask hflight haccepts) (h pending hpending)
      · -- the message has just been persisted, with the segment
        obtain rfl : pending = _ := List.mem_singleton.mp hpending
        have hshows : (stream.receive python (.approvalRequest approvalId toolCallId toolName toolArgs summary
            riskLevel riskReason)).Shows :=
          fun hempty => upsertTool_ne_nil _ _ (List.isEmpty_iff.mp hempty.2)
        have hload := load_persistCurrent s.messages (stream.receive python (.approvalRequest approvalId toolCallId
          toolName toolArgs summary riskLevel riskReason)) .awaitingApproval stream.runId
        rw [if_pos ⟨hshows, rfl⟩] at hload
        exact (congrArg (Option.getD · {}) hload).trans_ne hshows.shown_ne
    | content | toolCall | toolResult | usage | error | other => exact hkept fun _ => id
  | emit _ _ => exact hkept fun _ => id
  | timeOut _ =>
    refine hkept fun pending hpending => ?_
    simp only [timeOut, State.persistCurrent] at hpending
    split at hpending <;> exact hpending
  | cancel _ =>
    refine hkept fun pending hpending => ?_
    simp only [cancel, State.closeTask] at hpending
    split at hpending <;> exact hpending
  | abandon _ => exact hkept fun _ => id
  | finish _ _ =>
    refine hkept fun pending hpending => ?_
    simp only [finish, State.closeTask, State.storeDiagnosisEvent] at hpending
    split at hpending <;> exact hpending
  | resolve _ _ => exact hkept fun _ => id
  | @advance i outcome web pending approved stage _ =>
    cases stage with
    | opened =>
      cases approved <;> exact hkept fun _ hpending => (List.mem_filter.mp hpending).1
    | confirmed | called | returned => exact hkept fun _ => id

/-! ## Both apply the same events -/

/-- The codes of locales are normal. -/
theorem normalizeLocale_text (locale : Locale) : normalizeLocale python (some locale.text) = some locale := by
  cases locale <;> rfl

/-- The router, which does not know the locale of the stream, takes it from the event. -/
theorem responseLocale_event (stream : Stream) (body : Body) :
    responseLocale python none (stream.event python body) =
      responseLocale python stream.locale (stream.event python body) := by
  have hnormal : normalizeLocale python ((normalizeLocale python stream.locale).map Locale.text) =
      normalizeLocale python stream.locale := by
    cases normalizeLocale python stream.locale with
    | none => rfl
    | some code => exact normalizeLocale_text code
  unfold responseLocale
  cases hlocale : stream.locale.filter (· ≠ []) with
  | none => rfl
  | some locale =>
    have hsome : stream.locale = some locale := (Option.filter_eq_some_iff.mp hlocale).1
    show (normalizeLocale python ((normalizeLocale python stream.locale).map Locale.text)).getD .zhCN =
      (normalizeLocale python (some locale)).getD .zhCN
    rw [hnormal, hsome]

theorem apply_event (stream : Stream) (segments : List Segment) (body : Body) :
    applyRenderSegmentsEvent python none segments (stream.event python body) =
      applyRenderSegmentsEvent python stream.locale segments (stream.event python body) := by
  unfold applyRenderSegmentsEvent Event.patch
  rw [responseLocale_event]

/-! ## A note does not hide what is in flight -/

/-- A note at the end of a list that does not end in the part before. -/
theorem appendMarkdown_append (before after : List Segment) (hafter : after ≠ []) (text : Text) :
    appendMarkdownRenderSegment (before ++ after) (some text) =
      before ++ appendMarkdownRenderSegment after (some text) := by
  by_cases htext : text = []
  · simp [appendMarkdownRenderSegment, htext]
  · simp only [appendMarkdownRenderSegment, Option.getD_some, if_neg htext]
    rw [List.getLast?_append_of_ne_nil _ hafter, List.dropLast_append_of_ne_nil hafter]
    split <;> simp

/-- **Where a note makes no difference**, there was none before. -/
theorem eq_of_appendMarkdown {segments : List Segment} {event : Event} (htext : event.text = []) (text : Text)
    (h : appendMarkdownRenderSegment segments (some text) =
      appendMarkdownRenderSegment (applyRenderSegmentsEvent python none segments event) (some text)) :
    segments = applyRenderSegmentsEvent python none segments event := by
  by_cases hnote : text = []
  · simpa [hnote, appendMarkdownRenderSegment] using h
  -- a tool at the end is one segment more, and the note comes after it
  have hadded (tool : ToolSegment) : appendMarkdownRenderSegment segments (some text) ≠
      appendMarkdownRenderSegment (segments ++ [.tool tool]) (some text) := by
    intro heq
    have hlong : appendMarkdownRenderSegment (segments ++ [.tool tool]) (some text) =
        segments ++ [.tool tool, .markdown text] := by
      rw [appendMarkdown_append _ _ (by simp)]
      simp [appendMarkdownRenderSegment, hnote]
    have hlength := congrArg List.length (heq.trans hlong)
    obtain ⟨init, last, rfl, happend⟩ | ⟨-, happend⟩ := appendMarkdown_cases segments hnote <;>
      simp [happend] at hlength
  obtain ⟨-, hsome, -⟩ | ⟨id, patch, -, -, -, heq⟩ | ⟨tool, -, -, -, heq⟩ | ⟨-, -, heq⟩ :=
    apply_cases python none segments event
  · exact absurd htext hsome
  · rw [heq] at h ⊢
    obtain ⟨-, hupsert⟩ | ⟨before, a, after, rfl, -, -, hupsert⟩ :=
      upsert_cases Segment.callId id patch.writeSegment (.tool patch.fresh) segments
    · rw [hupsert] at h
      exact absurd h (hadded _)
    · rw [hupsert] at h ⊢
      rw [appendMarkdown_append _ _ (by simp), appendMarkdown_append _ _ (by simp)] at h
      have h := List.append_cancel_left h
      congr 1
      by_cases hafter : after = []
      · subst hafter
        cases a with
        | markdown content => rfl
        | tool segment => simpa [appendMarkdownRenderSegment, hnote, Patch.writeSegment] using h
      · -- the note is at the end of what comes after
        have hcons (a : Segment) : appendMarkdownRenderSegment (a :: after) (some text) =
            a :: appendMarkdownRenderSegment after (some text) := appendMarkdown_append [a] after hafter text
        rw [hcons, hcons, List.cons.injEq] at h
        rw [← h.1]
  · rw [heq] at h
    exact absurd h (hadded tool)
  · exact heq.symm

/-! ## The invariant -/

/-- An event of a tool: the router applies it to the segments. -/
structure OfTool (python : Python) (event : Event) : Prop where
  text : event.text = []
  applied : ∀ state, updateStreamState python state event =
    { state with renderSegments := applyRenderSegmentsEvent python none state.renderSegments event }

/-- The router's state is what the stream shows, up to the event in flight. -/
structure Mirrors (python : Python) (state : StreamState) (stream : Stream) : Prop where
  shown : stream.inFlight.elim state (updateStreamState python state) = stream.shown
  ofTool : ∀ event ∈ stream.inFlight, OfTool python event

/-- **The router follows its stream**: it has one task at most, which streams, and what is stored for an
approval is not empty. -/
structure Synced (python : Python) (s : State) : Prop where
  alone : ∀ j task, s.tasks j = some task → task.web = true → s.activeTask = some j
  follows : ∀ i, s.activeTask = some i → ∃ stream state, s.tasks i = some ⟨true, .streaming stream⟩ ∧
    s.live = some state ∧ Mirrors python state stream
  pendings : ∀ pending ∈ s.pendings, s.stored pending.runId ≠ {}

theorem synced_start : Synced python {} where
  alone _ _ h := by simp at h
  follows _ h := by simp at h
  pendings _ h := absurd h List.not_mem_nil

/-- Where an event in flight does not show, all has been shown. -/
theorem Mirrors.eq_iff {state : StreamState} {stream : Stream} (h : Mirrors python state stream) :
    state = stream.shown ↔ ∀ event ∈ stream.inFlight, updateStreamState python state event = state := by
  have hshown := h.shown
  cases hflight : stream.inFlight with
  | none =>
    rw [hflight] at hshown
    simpa using hshown
  | some event =>
    rw [hflight] at hshown
    simp only [Option.elim_some] at hshown
    simp only [Option.mem_def, Option.some.injEq, forall_eq', ← hshown]
    exact eq_comm

/-- What the browser is sent. -/
theorem Synced.sent (h : Synced python s) {i : ℕ} (hactive : s.activeTask = some i) :
    ∃ stream, s.tasks i = some ⟨true, .streaming stream⟩ ∧ Mirrors python s.sent stream := by
  obtain ⟨stream, state, htask, hlive, hmirrors⟩ := h.follows i hactive
  refine ⟨stream, htask, ?_⟩
  rw [State.sent, hlive]
  exact hmirrors

/-- **A client that reconnects is sent what would be persisted** iff nothing in flight shows. -/
theorem Synced.agree_iff_quiet (h : Synced python s) : Agree s ↔ Quiet python s := by
  constructor
  · intro hagree i hactive stream htask
    obtain ⟨stream', htask', hmirrors⟩ := h.sent hactive
    obtain rfl : stream' = stream := by simpa [htask] using htask'.symm
    exact hmirrors.eq_iff.mp (hagree i _ hactive htask)
  · intro hquiet i task hactive htask
    obtain ⟨stream, htask', hmirrors⟩ := h.sent hactive
    obtain rfl : task = ⟨true, .streaming stream⟩ := by simpa [htask] using htask'
    exact hmirrors.eq_iff.mpr (hquiet i hactive stream htask)

/-- The router's tasks stream. -/
theorem Synced.not_resolving (h : Synced python s) {i : ℕ} {web : Bool} {pending : Pending} {approved : Bool}
    {stage : Stage} (htask : s.tasks i = some ⟨web, .resolving pending approved stage⟩) : web = false := by
  by_contra hweb
  have hactive := h.alone i _ htask (by simpa using hweb)
  obtain ⟨stream, htask', -⟩ := h.sent hactive
  rw [htask] at htask'
  cases htask'

/-- A task of the router streams what the router follows. -/
theorem Synced.mirrors (h : Synced python s) {i : ℕ} {stream : Stream}
    (htask : s.tasks i = some ⟨true, .streaming stream⟩) :
    s.activeTask = some i ∧ ∃ state, s.live = some state ∧ Mirrors python state stream := by
  have hactive := h.alone i _ htask rfl
  obtain ⟨stream', state, htask', hlive, hmirrors⟩ := h.follows i hactive
  obtain rfl : stream' = stream := by simpa [htask] using htask'.symm
  exact ⟨hactive, state, hlive, hmirrors⟩

/-! ## Steps -/

/-- **A step in the background**, of a task that is not the router's. -/
theorem Synced.background (h : Synced python s) {i : ℕ} {task' : Option Task}
    (hold : ∀ task, s.tasks i = some task → task.web = false)
    (hnew : ∀ task, task' = some task → task.web = false)
    (htasks : t.tasks = Function.update s.tasks i task') (hactive : t.activeTask = s.activeTask)
    (hlive : t.live = s.live) (hpendings : ∀ pending ∈ t.pendings, t.stored pending.runId ≠ {}) :
    Synced python t := by
  refine ⟨?_, ?_, hpendings⟩
  · intro j task htask hweb
    rw [htasks] at htask
    obtain ⟨-, htask⟩ | ⟨-, htask⟩ := update_eq_some htask
    · rw [hnew task htask] at hweb
      cases hweb
    · rw [hactive]
      exact h.alone j task htask hweb
  · intro k hk
    rw [hactive] at hk
    obtain ⟨stream, state, htask, hstate, hmirrors⟩ := h.follows k hk
    have hki : k ≠ i := by
      rintro rfl
      exact Bool.noConfusion (hold _ htask)
    exact ⟨stream, state, by rw [htasks, Function.update_of_ne hki, htask], hlive.trans hstate, hmirrors⟩

/-- **The router's task streams.** -/
theorem Synced.foreground (h : Synced python s) {i : ℕ} {stream : Stream} {state : StreamState}
    (hold : s.activeTask = none ∨ s.activeTask = some i)
    (htasks : t.tasks = Function.update s.tasks i (some ⟨true, .streaming stream⟩))
    (hactive : t.activeTask = some i) (hlive : t.live = some state) (hmirrors : Mirrors python state stream)
    (hpendings : ∀ pending ∈ t.pendings, t.stored pending.runId ≠ {}) : Synced python t := by
  refine ⟨?_, ?_, hpendings⟩
  · intro j task htask hweb
    rw [htasks] at htask
    obtain ⟨rfl, -⟩ | ⟨hj, htask⟩ := update_eq_some htask
    · exact hactive
    · have hj' := h.alone j task htask hweb
      obtain hnone | hsome := hold
      · rw [hnone] at hj'
        cases hj'
      · rw [hsome, Option.some.injEq] at hj'
        exact absurd hj'.symm hj
  · intro k hk
    obtain rfl : i = k := by simpa [hactive] using hk
    exact ⟨stream, state, by rw [htasks, Function.update_self], hlive, hmirrors⟩

/-- **The router's task ends.** -/
theorem Synced.closes (h : Synced python s) {i : ℕ} (hold : s.activeTask = some i)
    (htasks : t.tasks = Function.update s.tasks i none) (hactive : t.activeTask = none)
    (hpendings : ∀ pending ∈ t.pendings, t.stored pending.runId ≠ {}) : Synced python t := by
  refine ⟨?_, ?_, hpendings⟩
  · intro j task htask hweb
    rw [htasks] at htask
    obtain ⟨-, htask⟩ | ⟨hj, htask⟩ := update_eq_some htask
    · cases htask
    · have hj' := h.alone j task htask hweb
      rw [hold, Option.some.injEq] at hj'
      exact absurd hj'.symm hj
  · intro k hk
    rw [hactive] at hk
    cases hk

/-- A stream begins with what is stored. -/
theorem openStream_shown (s : State) (runId : RunId) (turn : ℕ) (locale : Option Text) :
    (openStream s runId turn locale).shown = {} ↔ s.stored runId = {} := by
  have hstored : s.stored runId =
      ⟨((loadAssistantMessageByRunId s.messages runId).map AssistantMessage.content).getD [],
        ((loadAssistantMessageByRunId s.messages runId).map AssistantMessage.renderSegments).getD []⟩ := by
    unfold State.stored
    cases loadAssistantMessageByRunId s.messages runId <;> rfl
  rw [hstored]
  simp only [Stream.shown, openStream, StreamState.mk.injEq]
  refine and_congr_right fun hcontent => ?_
  rw [if_neg fun h => h.1 hcontent]

/-- **The router follows an event.** -/
theorem Mirrors.receive {state : StreamState} {stream : Stream} (h : Mirrors python state stream)
    (hflight : stream.inFlight = none) {i : ℕ} (hlive : s.live = some state) (event : AgentEvent) :
    ∃ state', (Chat.receive python s i true stream event).live = some state' ∧
      Mirrors python state' (stream.receive python event) := by
  have hshown : state = stream.shown := by simpa [hflight] using h.shown
  have happly (body : Body) : applyRenderSegmentsEvent python none state.renderSegments (stream.event python body) =
      applyRenderSegmentsEvent python stream.locale stream.renderSegments (stream.event python body) := by
    rw [hshown, apply_event]
    rfl
  -- an event that says nothing, and one of a tool, which the router has still to apply
  have hsilent (hlive' : (Chat.receive python s i true stream event).live = s.live)
      (hshown' : (stream.receive python event).shown = stream.shown)
      (hflight' : (stream.receive python event).inFlight = none) :
      ∃ state', (Chat.receive python s i true stream event).live = some state' ∧
        Mirrors python state' (stream.receive python event) :=
    ⟨state, hlive'.trans hlive, by rw [hflight', hshown', ← hshown]; rfl, by simp [hflight']⟩
  have htool (body : Body) (hbody : OfTool python (stream.event python body))
      (hlive' : (Chat.receive python s i true stream event).live = s.live)
      (hshown' : (stream.receive python event).shown = ⟨stream.fullResponse,
        applyRenderSegmentsEvent python stream.locale stream.renderSegments (stream.event python body)⟩)
      (hflight' : (stream.receive python event).inFlight = some (stream.event python body)) :
      ∃ state', (Chat.receive python s i true stream event).live = some state' ∧
        Mirrors python state' (stream.receive python event) := by
    refine ⟨state, hlive'.trans hlive, ?_, by simpa [hflight'] using hbody⟩
    rw [hflight', Option.elim_some, hbody.applied, happly, hshown', hshown]
    rfl
  cases event with
  | content text =>
    refine ⟨updateStreamState python state (stream.event python (.content (some text))), ?_, ?_, ?_⟩
    · exact congrArg (Option.map _) hlive
    · show stream.inFlight.elim _ _ = _
      rw [hflight, Option.elim_none]
      show StreamState.mk (state.content ++ text) (applyRenderSegmentsEvent python none state.renderSegments _) = _
      rw [happly, hshown]
      rfl
    · show ∀ event ∈ stream.inFlight, _
      simp [hflight]
  | toolCall | toolResult | approvalRequest => exact htool _ ⟨rfl, fun _ => rfl⟩ rfl rfl rfl
  | usage | error | other => exact hsilent rfl rfl hflight

/-- What a note adds. -/
def StreamState.note (state : StreamState) (note : Text) : StreamState :=
  ⟨state.content ++ note, appendMarkdownRenderSegment state.renderSegments (some note)⟩

/-- **A note hides nothing**: it shows the same to both iff all had been shown. -/
theorem Mirrors.note_iff {state : StreamState} {stream : Stream} (h : Mirrors python state stream) (note : Text) :
    state.note note = stream.shown.note note ↔ state = stream.shown := by
  refine ⟨fun heq => ?_, fun heq => by rw [heq]⟩
  have hshown := h.shown
  cases hflight : stream.inFlight with
  | none =>
    rw [hflight] at hshown
    exact hshown
  | some event =>
    obtain ⟨htext, happlied⟩ := h.ofTool event hflight
    rw [hflight, Option.elim_some, happlied] at hshown
    rw [← hshown] at heq ⊢
    have hsegments := eq_of_appendMarkdown htext note (congrArg StreamState.renderSegments heq)
    rw [← hsegments]

/-- **A timeout.** -/
theorem Mirrors.timeOut {state : StreamState} {stream : Stream} (h : Mirrors python state stream) {i : ℕ}
    (hlive : s.live = some state) (note : Text) :
    ∃ state', (Chat.timeOut python s i true stream note).live = some state' ∧
      (state' = (stream.note note).shown ↔ state = stream.shown) := by
  by_cases hfull : stream.fullResponse = []
  · refine ⟨state, ?_, by rw [Stream.note, if_pos hfull]⟩
    simp only [Chat.timeOut, if_pos hfull]
    exact hlive
  · refine ⟨state.note note, ?_, ?_⟩
    · simp only [Chat.timeOut, if_neg hfull]
      exact congrArg (Option.map _) hlive
    · rw [Stream.note, if_neg hfull]
      exact h.note_iff note

/-- **A step keeps the router in step** with its stream, if it meets the condition. -/
theorem Synced.step (h : Synced python s) {label : Label} (hstep : Steps python s label t)
    (hok : Mirrored python s label) : Synced python t := by
  have hpendings := pendings_of_steps hstep h.pendings
  cases hstep with
  | @start i second web locale hfree hweb =>
    cases web with
    | false => exact h.background (by simp [hfree]) (by simp) rfl rfl rfl hpendings
    | true =>
      refine h.foreground (.inl (hweb rfl)) rfl rfl rfl ⟨?_, ?_⟩ hpendings
      · exact ((openStream_shown s second s.turns locale).mpr (hok rfl)).symm
      · simp [openStream]
  | @receive i event web stream htask hflight haccepts =>
    cases web with
    | false =>
      refine h.background (by simp [htask]) (by simp) (receive_tasks event) ?_ ?_ hpendings <;>
        cases event <;> rfl
    | true =>
      obtain ⟨hactive, state, hlive, hmirrors⟩ := h.mirrors htask
      obtain ⟨state', hlive', hmirrors'⟩ := hmirrors.receive hflight hlive (i := i) event
      refine h.foreground (.inr hactive) (receive_tasks event) ?_ hlive' hmirrors' hpendings
      cases event <;> exact hactive
  | @emit i web stream event htask hflight =>
    cases web with
    | false => exact h.background (by simp [htask]) (by simp) rfl rfl rfl hpendings
    | true =>
      obtain ⟨hactive, state, hlive, hmirrors⟩ := h.mirrors htask
      have hshown := hmirrors.shown
      rw [hflight] at hshown
      exact h.foreground (.inr hactive) rfl hactive (congrArg (Option.map _) hlive) ⟨hshown, by simp⟩ hpendings
  | @timeOut i note web stream htask =>
    cases web with
    | false =>
      refine h.background (by simp [htask]) (by simp) (timeOut_tasks note) ?_ ?_ hpendings <;>
        simp only [timeOut] <;> split <;> rfl
    | true =>
      obtain ⟨hactive, state, hlive, hmirrors⟩ := h.mirrors htask
      obtain ⟨state', hlive', hiff⟩ := hmirrors.timeOut hlive (i := i) note
      have hstate : state = stream.shown := by
        refine hmirrors.eq_iff.mpr ?_
        have hquiet := hok stream htask
        rwa [State.sent, hlive] at hquiet
      refine h.foreground (.inr hactive) (timeOut_tasks note) ?_ hlive' ⟨hiff.mpr hstate, by simp⟩ hpendings
      simp only [timeOut]
      split <;> exact hactive
  | @cancel i note web stream htask =>
    cases web with
    | false =>
      refine h.background (by simp [htask]) (by simp) (cancel_tasks note) ?_ ?_ hpendings <;>
        simp only [cancel] <;> split <;> rfl
    | true =>
      refine h.closes (h.mirrors htask).1 (cancel_tasks note) ?_ hpendings
      simp only [cancel]
      split <;> rfl
  | @abandon i note web pending approved stage htask =>
    obtain rfl := h.not_resolving htask
    exact h.background (by simp [htask]) (by simp) rfl rfl rfl hpendings
  | @finish i conclusion web stream htask hflight =>
    cases web with
    | false =>
      refine h.background (by simp [htask]) (by simp) (finish_tasks conclusion) ?_ ?_ hpendings <;>
        simp only [finish] <;> split <;> rfl
    | true =>
      refine h.closes (h.mirrors htask).1 (finish_tasks conclusion) ?_ hpendings
      simp only [finish]
      split <;> rfl
  | @resolve i k approved web pending hfree hpending =>
    obtain rfl : web = false := hok
    exact h.background (by simp [hfree]) (by simp) rfl rfl rfl hpendings
  | @advance i outcome web pending approved stage htask =>
    obtain rfl := h.not_resolving htask
    refine h.background (by simp [htask]) ?_ (advance_tasks ..) ?_ ?_ hpendings
    · cases stage <;> cases approved <;> simp
    · cases stage <;> cases approved <;> rfl
    · cases stage <;> cases approved <;> rfl

/-- Where nothing of the router's task is in flight, what is sent has to be right. -/
theorem sent_of_agree_iff (hagree : Agree t ↔ Quiet python t) {i : ℕ} {task : Task}
    (hactive : t.activeTask = some i) (htask : t.tasks i = some task)
    (hflight : ∀ stream, task.work = .streaming stream → stream.inFlight = none) :
    t.sent = t.persisted task.work := by
  refine hagree.mpr ?_ i task hactive htask
  intro j hj stream hstream event hevent
  obtain rfl : i = j := by simpa [hactive] using hj
  obtain rfl : task = ⟨true, .streaming stream⟩ := by simpa [htask] using hstream
  rw [hflight stream rfl] at hevent
  cases hevent

/-- **And only if it meets the condition**: the other steps leave the router with something else. -/
theorem Synced.mirrored (h : Synced python s) {label : Label} (hstep : Steps python s label t)
    (hagree : Agree t ↔ Quiet python t) : Mirrored python s label := by
  cases hstep with
  | @start i second web locale hfree _ =>
    rintro rfl
    have hsent := sent_of_agree_iff hagree rfl (Function.update_self ..) fun stream hstream => by
      obtain rfl := Work.streaming.inj hstream
      rfl
    exact (openStream_shown s second s.turns locale).mp hsent.symm
  | @timeOut i note web stream htask =>
    intro stream' htask'
    obtain ⟨rfl, rfl⟩ : true = web ∧ stream' = stream := by simpa [htask, eq_comm] using htask'
    obtain ⟨hactive, state, hlive, hmirrors⟩ := h.mirrors htask
    obtain ⟨state', hlive', hiff⟩ := hmirrors.timeOut hlive (i := i) note
    have hactive' : (timeOut python s i true stream' note).activeTask = some i := by
      simp only [timeOut]
      split <;> exact hactive
    have htimeOut : (timeOut python s i true stream' note).tasks i =
        some ⟨true, .streaming { stream'.note note with terminal := true, inFlight := none }⟩ := by
      rw [timeOut_tasks, Function.update_self]
    have hsent := sent_of_agree_iff hagree hactive' htimeOut fun stream hstream => by
      obtain rfl := Work.streaming.inj hstream
      rfl
    rw [State.sent, hlive', Option.getD_some] at hsent
    rw [State.sent, hlive]
    exact hmirrors.eq_iff.mp (hiff.mp hsent)
  | @resolve i k approved web pending _ hpending =>
    by_contra hweb
    obtain rfl : web = true := by simpa [Mirrored] using hweb
    have hsent := sent_of_agree_iff hagree rfl (Function.update_self ..) (by simp)
    exact h.pendings pending (List.mem_of_getElem? hpending) hsent.symm
  | receive _ _ _ | emit _ _ | cancel _ | abandon _ | finish _ _ | advance _ => trivial

/-- **A client that reconnects is sent what would be persisted**, except while something in flight shows, all
along a run iff all its steps meet the condition. -/
theorem reconnects_iff (python : Python) (labels : List Label) (t : State) :
    Run (Chat.step python) (fun s label => ∃ t ∈ Chat.step python s label, Agree t ↔ Quiet python t) {} labels t ↔
      Run (Chat.step python) (Mirrored python) {} labels t :=
  Run.leadsTo_iff (I := Synced python)
    (fun _ _ _ h hs => ⟨h.mirrored (steps_of_step hs), fun hok => (h.step (steps_of_step hs) hok).agree_iff_quiet⟩)
    (fun _ _ _ h hs hagree => h.step (steps_of_step hs) (h.mirrored (steps_of_step hs) hagree)) synced_start

/-- The session when its approval has just been given. -/
def approvedState : State := (exec (step .plain) Always {} (resumedTurn.take 8)).getD {}

/-- **After an approval the router begins with nothing**: the message of the run says that it is checking. -/
theorem resumedTurn_disagrees :
    Run (step .plain) Always {} (resumedTurn.take 8) approvedState ∧ ¬ Agree approvedState := by
  refine ⟨.of_isSome (by decide), fun hagree => ?_⟩
  have hsent := congrArg StreamState.content (hagree 0 _ rfl rfl)
  revert hsent
  decide

end DBClaw.Chat
