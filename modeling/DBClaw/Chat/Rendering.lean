import DBClaw.Chat.Segments
import Mathlib.Data.List.Chain

/-! # Segments are a fold of the stream
The segments of a reply, applied event by event, show its text in order, one segment for each call that has
an id, in the place where the call came up, with what its last event says. -/

namespace DBClaw.Chat

open Upserts

/-! ## What a stream says -/

/-- The text that an event adds to the response. -/
def Event.text (event : Event) : Text :=
  match event.body with
  | .content content => content.getD []
  | _ => []

/-- `full_response`, from the events that have come. -/
def fullResponse (events : List Event) : Text := events.foldl (fun full event => full ++ event.text) []

/-- The call that an event is about; an event with an empty id, or none, is about no call. -/
def Event.callId (event : Event) : Option Text :=
  match event.body with
  | .content _ | .other _ => none
  | .toolCall toolCallId .. | .toolResult toolCallId .. | .approvalRequest toolCallId ..
  | .confirmationResolved toolCallId .. => Chat.callId toolCallId

/-- The text of a segment. -/
def Segment.text : Segment → Text
  | .markdown content => content
  | .tool _ => []

/-- The text of the markdown segments. -/
def markdownText (segments : List Segment) : Text := segments.flatMap Segment.text

@[simp] theorem Segment.callId_markdown (content : Text) : (Segment.markdown content).callId = none := rfl

/-- The segment is markdown. -/
def Segment.isMarkdown : Segment → Bool
  | .markdown _ => true
  | .tool _ => false

variable (python : Python) (locale : Option Text)

/-- The segments after the events. -/
def render (events : List Event) : List Segment :=
  events.foldl (applyRenderSegmentsEvent python locale) []

/-- **The segments are those of the stream.** -/
structure Faithful (events : List Event) (segments : List Segment) : Prop where
  /-- The markdown is the response. -/
  text : markdownText segments = fullResponse events
  /-- A call has one segment. -/
  unique : (segments.filterMap Segment.callId).Nodup
  /-- Between two markdown segments there is a tool. -/
  apart : segments.IsChain fun s t => ¬ (s.isMarkdown = true ∧ t.isMarkdown = true)
  /-- The segment of a call stands where the call first came up, after what was said before. -/
  standing : ∀ before event after id, events = before ++ event :: after → event.callId = some id →
    (∀ earlier ∈ before, earlier.callId ≠ some id) →
      ∃ segment, segments[(render python locale before).length]? = some (.tool segment) ∧
        Chat.callId segment.toolCallId = some id ∧
          markdownText (segments.take (render python locale before).length) = fullResponse before
  /-- It shows what the last event of the call says: to write that once more changes nothing. -/
  showing : ∀ before event after id, events = before ++ event :: after → event.callId = some id →
    (∀ later ∈ after, later.callId ≠ some id) →
      ∀ segment, .tool segment ∈ segments → Chat.callId segment.toolCallId = some id →
        ∀ patch ∈ event.patch python locale, patch.write segment = segment

variable {python locale}

/-! ## Patches -/

@[simp] theorem Patch.write_toolCallId (patch : Patch) (segment : ToolSegment) :
    (patch.write segment).toolCallId = segment.toolCallId := rfl

@[simp] theorem Patch.text_writeSegment (patch : Patch) (segment : Segment) :
    (patch.writeSegment segment).text = segment.text := by
  cases segment <;> rfl

@[simp] theorem Patch.isMarkdown_writeSegment (patch : Patch) (segment : Segment) :
    (patch.writeSegment segment).isMarkdown = segment.isMarkdown := by
  cases segment <;> rfl

/-! ## What an event does to the segments -/

/-- The event's patch is for the event's call. -/
theorem Event.callId_patch {event : Event} {patch : Patch} (h : event.patch python locale = some patch) :
    Chat.callId patch.toolCallId = event.callId := by
  obtain ⟨body, _⟩ := event
  cases body <;> simp only [Event.patch, Body.patch, Option.some.injEq, reduceCtorEq] at h <;> subst h <;> rfl

/-- **One event**: it says something, writes onto the segment of its call, adds a tool that is of no call, or
does nothing. -/
theorem apply_cases (python : Python) (locale : Option Text) (segments : List Segment) (event : Event) :
    (event.callId = none ∧ event.text ≠ [] ∧ applyRenderSegmentsEvent python locale segments event =
      appendMarkdownRenderSegment segments (some event.text)) ∨
    (∃ id patch, event.callId = some id ∧ event.text = [] ∧ event.patch python locale = some patch ∧
      applyRenderSegmentsEvent python locale segments event =
        upsert Segment.callId id patch.writeSegment (.tool patch.fresh) segments) ∨
    (∃ tool : ToolSegment, event.callId = none ∧ event.text = [] ∧ Chat.callId tool.toolCallId = none ∧
      applyRenderSegmentsEvent python locale segments event = segments ++ [.tool tool]) ∨
    (event.callId = none ∧ event.text = [] ∧
      applyRenderSegmentsEvent python locale segments event = segments) := by
  obtain ⟨body, origin⟩ := event
  cases hpatch : body.patch python (responseLocale python locale ⟨body, origin⟩) with
  | none =>
    cases body with
    | content content =>
      by_cases htext : content.getD [] = []
      · exact .inr (.inr (.inr ⟨rfl, htext, by simp [applyRenderSegmentsEvent, appendMarkdownRenderSegment, htext]⟩))
      · exact .inl ⟨rfl, htext, rfl⟩
    | other type => exact .inr (.inr (.inr ⟨rfl, rfl, rfl⟩))
    | toolCall | toolResult | approvalRequest | confirmationResolved => simp [Body.patch] at hpatch
  | some patch =>
    have hid := @Event.callId_patch python locale ⟨body, origin⟩ patch hpatch
    have htext : (⟨body, origin⟩ : Event).text = [] := by
      cases body <;> first | rfl | simp [Body.patch] at hpatch
    have happly : applyRenderSegmentsEvent python locale segments ⟨body, origin⟩ =
        upsertToolRenderSegment segments patch := by
      cases body <;> simp_all [applyRenderSegmentsEvent, Event.patch, Body.patch]
    cases hcall : Chat.callId patch.toolCallId with
    | some id =>
      refine .inr (.inl ⟨id, patch, hid.symm.trans hcall, htext, hpatch, ?_⟩)
      rw [happly, upsertToolRenderSegment, hcall]
    | none =>
      refine .inr (.inr (.inl ⟨patch.write patch.fresh, hid.symm.trans hcall, htext, hcall, ?_⟩))
      rw [happly, upsertToolRenderSegment, hcall]

/-! ## Tools stay where they are -/

/-- Every tool is still in its place, after the same text. -/
def Keeps (segments segments' : List Segment) : Prop :=
  ∀ n tool, segments[n]? = some (.tool tool) → ∃ tool', segments'[n]? = some (.tool tool') ∧
    tool'.toolCallId = tool.toolCallId ∧ markdownText (segments'.take n) = markdownText (segments.take n)

theorem Keeps.refl (segments : List Segment) : Keeps segments segments :=
  fun _ tool h => ⟨tool, h, rfl, rfl⟩

theorem Keeps.trans {s t r : List Segment} (h : Keeps s t) (k : Keeps t r) : Keeps s r := by
  intro n tool hn
  obtain ⟨tool', hn', hid', htext'⟩ := h n tool hn
  obtain ⟨tool'', hn'', hid'', htext''⟩ := k n tool' hn'
  exact ⟨tool'', hn'', hid''.trans hid', htext''.trans htext'⟩

/-- Text goes to the last segment, or into a new one. -/
theorem appendMarkdown_cases (segments : List Segment) {text : Text} (htext : text ≠ []) :
    (∃ init last, segments = init ++ [.markdown last] ∧
      appendMarkdownRenderSegment segments (some text) = init ++ [.markdown (last ++ text)]) ∨
    ((∀ s ∈ segments.getLast?, s.isMarkdown = false) ∧
      appendMarkdownRenderSegment segments (some text) = segments ++ [.markdown text]) := by
  cases segments using List.reverseRecOn with
  | nil => exact .inr ⟨by simp, by simp [appendMarkdownRenderSegment, htext]⟩
  | append_singleton init s =>
    cases s with
    | markdown last => exact .inl ⟨init, last, rfl, by simp [appendMarkdownRenderSegment, htext]⟩
    | tool tool =>
      exact .inr ⟨by simp [Segment.isMarkdown], by simp [appendMarkdownRenderSegment, htext]⟩

variable (segments : List Segment) (event : Event)

/-- Two markdown segments are not next to each other. -/
def Apart (segments : List Segment) : Prop :=
  segments.IsChain fun s t => ¬ (s.isMarkdown = true ∧ t.isMarkdown = true)

/-- A segment is added that is no markdown, or comes after one that is none. -/
theorem Apart.append {segments : List Segment} (h : Apart segments) {added : Segment}
    (hadded : added.isMarkdown = true → ∀ s ∈ segments.getLast?, s.isMarkdown = false) :
    Apart (segments ++ [added]) := by
  refine List.isChain_append.mpr ⟨h, List.isChain_singleton _, fun s hs t ht => ?_⟩
  rw [List.head?_cons, Option.mem_some_iff] at ht
  subst ht
  rintro ⟨hs', ht'⟩
  rw [hadded ht' s hs] at hs'
  cases hs'

/-- The id of a segment as it is stored. -/
def Segment.toolCallId : Segment → Option Text
  | .markdown _ => none
  | .tool segment => segment.toolCallId

end DBClaw.Chat
