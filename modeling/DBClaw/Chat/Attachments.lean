import DBClaw.Library.Json
import DBClaw.Library.Runs
import DBClaw.Library.Walks

/-! # Attachments
An upload is stored under a name of its own, and what was stored about it comes back through the browser as
part of a message. The messages of a session are loaded again for every turn, and the files that the
attachments name are opened. -/

namespace DBClaw.Attachments

open Runs Walks

/-! ## Uploads -/

/-- **The outside**: the case of letters, `mimetypes.guess_type`, `str()`, and where paths lead to. -/
structure Env where
  u : Unicode
  guessType : Text → Option Text
  str : Json → Text
  /-- The file that a path leads to, through links, `..` and the working directory. -/
  canonical : Text → Text
  /-- The process has a file open under the number. -/
  hasDescriptor : ℤ → Bool

variable (env : Env)

/-- `Path(filename).name`. -/
def pathName (filename : Text) : Text :=
  ((filename.splitOn '/').filter fun part => ! part.isEmpty && part != ['.']).getLast?.getD []

/-- `Path(filename).suffix`: what the name has from its last dot on, if there is something before and behind. -/
def pathSuffix (filename : Text) : Text :=
  let name := pathName filename
  let behind := name.reverse.takeWhile (· != '.')
  if ! behind.isEmpty && behind.length + 1 < name.length then '.' :: behind.reverse else []

/-- `ALLOWED_IMAGE_TYPES`. -/
def allowedImageTypes : List Text :=
  [".jpg".toList, ".jpeg".toList, ".png".toList, ".gif".toList, ".webp".toList, ".bmp".toList]

/-- `ALLOWED_TEXT_TYPES`. -/
def allowedTextTypes : List Text :=
  [".txt".toList, ".log".toList, ".sql".toList, ".json".toList, ".yaml".toList, ".yml".toList, ".md".toList,
    ".csv".toList]

/-- `ALLOWED_DOC_TYPES`. -/
def allowedDocTypes : List Text := [".pdf".toList, ".doc".toList, ".docx".toList]

/-- **`is_allowed_file`**. -/
def isAllowedFile (filename : Text) : Bool :=
  (allowedImageTypes ++ allowedTextTypes ++ allowedDocTypes).contains (Text.lower env.u (pathSuffix filename))

/-- **`get_file_type`**. -/
def getFileType (filename : Text) : Text :=
  let ext := Text.lower env.u (pathSuffix filename)
  if allowedImageTypes.contains ext then "image".toList
  else if allowedTextTypes.contains ext then "text".toList
  else if allowedDocTypes.contains ext then "document".toList
  else "unknown".toList

/-- The name that `save_attachment` stores an upload under; `hex` is the one of a new UUID. -/
def uniqueFilename (sessionId : ℕ) (hex filename : Text) : Text :=
  (toString sessionId).toList ++ '_' :: hex ++ pathSuffix filename

/-- `str(UPLOAD_DIR / unique_filename)`. -/
def uploadPath (sessionId : ℕ) (hex filename : Text) : Text :=
  "uploads/chat_attachments/".toList ++ uniqueFilename sessionId hex filename

/-- The metadata that **`save_attachment`** returns. -/
def metadata (sessionId : ℕ) (hex filename : Text) (size : ℕ) : Dict :=
  [("filename", .str filename), ("stored_filename", .str (uniqueFilename sessionId hex filename)),
    ("file_type", .str (getFileType env filename)),
    ("mime_type", .str ((env.guessType filename).getD "application/octet-stream".toList)),
    ("size", .int size), ("path", .str (uploadPath sessionId hex filename))]

/-! ## Attachments for the model -/

/-- What a call of `open` is given. -/
inductive Target
  | path (p : Text)
  | descriptor (n : ℤ)
deriving DecidableEq

/-- What `Image.open` opens: a path that is not empty. -/
def imageTarget : Json → Option Target
  | .str p => if p.isEmpty then none else some (.path p)
  | _ => none

/-- What `open(file_path, "r")` opens: a path, or the descriptor of a number. -/
def textTarget : Json → Option Target
  | .str p => some (.path p)
  | .int n => some (.descriptor n)
  | .bool b => some (.descriptor b.toNat)
  | _ => none

/-- A part of the content of a message. -/
inductive Part
  | imageUrl (url : Text)
  | text (text : Text)

/-- What the files hold: `process_image_for_vision` and `read_text_file`; `none` where they raise. -/
structure Reader where
  image : Target → Option Text
  text : Target → Option Text

variable (reader : Reader)

/-- **`format_attachment_for_llm`**: the call of `open`, and the part, unless something raises. -/
def formatAttachmentForLlm : Json → Option Target × Option Part
  | .obj fields =>
    match fields.lookup "file_type", fields.lookup "path" with
    | some fileType, some path =>
      match fileType with
      | .str ['i', 'm', 'a', 'g', 'e'] =>
        (imageTarget path, (imageTarget path).bind fun target => (reader.image target).map Part.imageUrl)
      | .str ['t', 'e', 'x', 't'] =>
        (textTarget path, do
          let content ← (textTarget path).bind reader.text
          let filename ← fields.lookup "filename"
          some (.text ("File: ".toList ++ env.str filename ++ "\n\n".toList ++ content)))
      | _ =>
        (none, do
          let filename ← fields.lookup "filename"
          let mimeType ← fields.lookup "mime_type"
          let size ← fields.lookup "size"
          some (.text ("Attached file: ".toList ++ env.str filename ++ " (".toList ++ env.str mimeType ++
            ", ".toList ++ env.str size ++ " bytes)".toList)))
    | _, _ => (none, none)
  | _ => (none, none)

/-- What `rebuild_llm_messages` puts where an attachment cannot be formatted; `att.get` raises on what is no
object. -/
def errorPart : Json → Option Part
  | .obj fields =>
    some (.text ("[Error loading attachment: ".toList ++
      env.str (Dict.getD fields "filename" (.str "unknown".toList)) ++ "]".toList))
  | _ => none

/-- One turn of the loop over the attachments. -/
def formatOne (attachment : Json) : List Target × Option Part :=
  let formatted := formatAttachmentForLlm env reader attachment
  (formatted.1.toList, formatted.2.or (errorPart env attachment))

/-- What a loop over a JSON value goes through; `none` where it is not iterable. -/
def iterate : Json → Option (List Json)
  | .arr items => some items
  | .obj fields => some (fields.map fun field => .str field.1.toList)
  | .str s => some (s.map fun c => .str [c])
  | _ => none

/-- A row of `chat_message` of the user. -/
structure UserMessage where
  sessionId : ℕ
  createdAt : ℚ
  content : Text
  attachments : Json

/-- The content of a message for the model. -/
inductive Content
  | text (content : Text)
  | parts (parts : List Part)

/-- The text of a message, before its attachments. -/
def textParts (content : Text) : List Part :=
  if ! content.isEmpty && content != "[Attachment]".toList then [.text content] else []

/-- What **`rebuild_llm_messages`** makes of a row of the user, with the calls of `open`. -/
def rebuildOne (row : UserMessage) : List Target × Option Content :=
  if row.attachments.truthy then
    match iterate row.attachments with
    | some items =>
      ((walk (formatOne env reader) items).1,
        (walk (formatOne env reader) items).2.map fun parts => .parts (textParts row.content ++ parts))
    | none => ([], none)
  else ([], some (.text row.content))

/-- **`rebuild_llm_messages`**, of the rows of the user; those of other roles have no attachments. -/
def rebuildLlmMessages (rows : List UserMessage) : List Target × Option (List Content) :=
  walk (rebuildOne env reader) rows

/-- **`load_session_messages_for_llm`**, of rows in the order of their ids. -/
def loadSessionMessagesForLlm (cutoff : Option ℚ) (sessionId : ℕ) (rows : List UserMessage) : List UserMessage :=
  rows.filter fun row => row.sessionId = sessionId && cutoff.all (· ≤ row.createdAt)

/-! ## Steps -/

/-- **The state**: the files of the server by their canonical path, each with the session that `save_attachment`
stored it for, and the rows of the user. -/
structure State where
  files : Text → Option (Option ℕ)
  rows : List UserMessage

/-- **What happens**: an upload to a session, a message with an `attachments` field through the websocket, and
another file that comes up on the server. -/
inductive Label
  | upload (sessionId : ℕ) (hex filename : Text) (size : ℕ)
  | message (sessionId : ℕ) (createdAt : ℚ) (userMessage : Text) (attachments : Option Json)
  | appears (path : Text)

/-- `MAX_FILE_SIZE`. -/
def maxFileSize : ℕ := 10 * 1024 * 1024

/-- The endpoint admits an upload. -/
def admitsUpload (filename : Text) (size : ℕ) : Bool := size ≤ maxFileSize && isAllowedFile env filename

/-- The file is stored. -/
def State.store (s : State) (path : Text) (owner : Option ℕ) : State :=
  { s with files := Function.update s.files (env.canonical path) (some owner) }

/-- The row that **`prepare_user_turn`** adds. -/
def userRow (sessionId : ℕ) (createdAt : ℚ) (userMessage : Text) (attachments : Json) : UserMessage where
  sessionId
  createdAt
  content := if userMessage.isEmpty then "[Attachment]".toList else userMessage
  attachments := attachments.or (.arr [])

/-- **One step**; a message with neither text nor attachments is skipped. -/
def step (s : State) : Label → Option State
  | .upload sessionId hex filename size =>
    some (if admitsUpload env filename size then s.store env (uploadPath sessionId hex filename) (some sessionId)
      else s)
  | .message sessionId createdAt userMessage attachments =>
    let attachments := attachments.getD (.arr [])
    some (if userMessage.isEmpty && ! attachments.truthy then s
      else { s with rows := s.rows ++ [userRow sessionId createdAt userMessage attachments] })
  | .appears path => some (s.store env path none)

/-- The owner of the file that is opened, if a file is: what `save_attachment` has not stored has none. -/
def State.opened (s : State) : Target → Option (Option ℕ)
  | .path p => s.files (env.canonical p)
  | .descriptor n => if env.hasDescriptor n then some none else none

/-- **A session reads its own**: whatever part of its history is loaded, each file that is opened was stored for
the session. -/
def Confined (s : State) : Prop :=
  ∀ sessionId cutoff,
    ∀ target ∈ (rebuildLlmMessages env reader (loadSessionMessagesForLlm cutoff sessionId s.rows)).1,
      ∀ owner ∈ s.opened env target, owner = some sessionId

/-! ## Conditions -/

/-- The call of `open` that an attachment leads to: an image with a path, or a text with a path or a number. -/
def targetOf : Json → Option Target
  | .obj fields =>
    match fields.lookup "file_type", fields.lookup "path" with
    | some fileType, some path =>
      match fileType with
      | .str ['i', 'm', 'a', 'g', 'e'] => imageTarget path
      | .str ['t', 'e', 'x', 't'] => textTarget path
      | _ => none
    | _, _ => none
  | _ => none

/-- The value is an object. -/
def isObject : Json → Bool
  | .obj _ => true
  | _ => false

/-- What the attachments of a message name, up to the first that is no object. -/
def namedTargets : Json → List Target
  | .arr items => (items.takeWhile isObject).filterMap targetOf
  | _ => []

/-- A rebuild gets past the attachments: there are none, or they are a list of objects. -/
def Loads (attachments : Json) : Prop :=
  attachments.truthy = false ∨ ∃ items, attachments = .arr items ∧ items.all isObject = true

/-- The calls of `open` when a part of the history of a session is loaded. -/
def State.reads (s : State) (sessionId : ℕ) (cutoff : Option ℚ) : List Target :=
  (rebuildLlmMessages env reader (loadSessionMessagesForLlm cutoff sessionId s.rows)).1

/-- The call of `open` leads to the file of a path. -/
def Target.LeadsTo (path : Text) : Target → Prop
  | .path p => env.canonical p = env.canonical path
  | .descriptor _ => False

/-- **The condition on a step**. What a message names, as far as a rebuild comes to it, is no file or one stored
for the session; and a file that comes up has been named by no message, except one of the session that it is
stored for. -/
def NamesOwn (s : State) : Label → Prop
  | .upload sessionId hex filename size => admitsUpload env filename size = true →
      ∀ other ≠ sessionId, ∀ cutoff, ∀ target ∈ s.reads env reader other cutoff,
        ¬ target.LeadsTo env (uploadPath sessionId hex filename)
  | .message sessionId createdAt _ attachments => ∀ cutoff : Option ℚ, cutoff.all (· ≤ createdAt) = true →
      (∀ row ∈ loadSessionMessagesForLlm cutoff sessionId s.rows, Loads row.attachments) →
        ∀ target ∈ namedTargets (attachments.getD (.arr [])), ∀ owner ∈ s.opened env target,
          owner = some sessionId
  | .appears path => ∀ sessionId cutoff, ∀ target ∈ s.reads env reader sessionId cutoff,
      ¬ target.LeadsTo env path

/-! ## What a rebuild opens -/

variable {env reader}

/-- Formatting opens what the attachment leads to. -/
theorem formatAttachmentForLlm_fst (attachment : Json) :
    (formatAttachmentForLlm env reader attachment).1 = targetOf attachment := by
  unfold formatAttachmentForLlm targetOf
  split
  · split
    · split <;> rfl
    · rfl
  · rfl

/-- The loop goes on after an object, whatever formatting it raises. -/
theorem formatOne_isSome (attachment : Json) :
    (formatOne env reader attachment).2.isSome = isObject attachment := by
  cases attachment with
  | obj fields => rw [formatOne, errorPart, Option.isSome_or, Option.isSome_some, Bool.or_true, isObject]
  | null | bool b | int n | float x | str s | arr xs => rfl

theorem mem_formatOne {attachment : Json} {target : Target} :
    target ∈ (formatOne env reader attachment).1 ↔ target ∈ targetOf attachment := by
  rw [formatOne, formatAttachmentForLlm_fst, Option.mem_toList, Option.mem_def]

/-- **The loop over the attachments** opens what they lead to, up to the first that is no object. -/
theorem mem_walk_formatOne {items : List Json} {target : Target} :
    target ∈ (walk (formatOne env reader) items).1 ↔
      target ∈ (items.takeWhile isObject).filterMap targetOf := by
  induction items with
  | nil => simp
  | cons item items ih =>
    cases hitem : isObject item with
    | true =>
      obtain ⟨part, hpart⟩ := Option.isSome_iff_exists.mp ((formatOne_isSome item).trans hitem)
      rw [walk_cons_of_some hpart, List.mem_append, ih, mem_formatOne, List.takeWhile_cons_of_pos hitem,
        List.mem_filterMap, List.mem_filterMap]
      simp [Option.mem_def]
    | false =>
      have hnone : (formatOne env reader item).2 = none :=
        Option.isSome_eq_false_iff.mp ((formatOne_isSome item).trans hitem) |> Option.isNone_iff_eq_none.mp
      have htarget : targetOf item = none := by
        cases item with
        | obj fields => cases hitem
        | null | bool b | int n | float x | str s | arr xs => rfl
      rw [walk_cons_of_none hnone, mem_formatOne, htarget,
        List.takeWhile_cons_of_neg (by rw [hitem]; exact Bool.false_ne_true)]
      simp

/-- The characters of a text, or the keys of an object, are no attachments. -/
theorem takeWhile_strings {α : Type} (f : α → Text) (l : List α) :
    (l.map fun a => Json.str (f a)).takeWhile isObject = [] := by
  cases l with
  | nil => rfl
  | cons a l => rfl

/-- What a row opens. -/
theorem mem_rebuildOne {row : UserMessage} {target : Target} :
    target ∈ (rebuildOne env reader row).1 ↔ target ∈ namedTargets row.attachments := by
  unfold rebuildOne
  cases hattachments : row.attachments with
  | null => simp [Json.truthy, namedTargets]
  | bool b => cases b <;> simp [Json.truthy, namedTargets, iterate]
  | int n | float x =>
    split <;> simp [namedTargets, iterate]
  | str s =>
    split
    · simp only [iterate, mem_walk_formatOne, takeWhile_strings, List.filterMap_nil, namedTargets]
    · exact Iff.rfl
  | obj fields =>
    split
    · simp only [iterate, mem_walk_formatOne, takeWhile_strings, List.filterMap_nil, namedTargets]
    · exact Iff.rfl
  | arr items =>
    split
    · simp only [iterate, mem_walk_formatOne, namedTargets]
    · rename_i hfalsy
      obtain rfl : items = [] := by simpa [Json.truthy] using hfalsy
      exact Iff.rfl

/-- A row lets the rebuild go on. -/
theorem rebuildOne_isSome {row : UserMessage} :
    (rebuildOne env reader row).2.isSome = true ↔ Loads row.attachments := by
  have hwalk (items : List Json) : (walk (formatOne env reader) items).2.isSome = true ↔
      items.all isObject = true := by
    rw [walk_isSome, List.all_eq_true]
    exact forall₂_congr fun item _ => by rw [formatOne_isSome]
  unfold rebuildOne
  split
  · rename_i htruthy
    have hfalse : row.attachments.truthy ≠ false := by
      rw [htruthy]
      exact Ne.symm Bool.false_ne_true
    rw [Loads, or_iff_right hfalse]
    cases hattachments : row.attachments with
    | null | bool b | int n | float x =>
      refine iff_of_false Bool.false_ne_true ?_
      rintro ⟨items, hitems, -⟩
      cases hitems
    | arr items =>
      simp only [iterate, Option.isSome_map, hwalk, Json.arr.injEq, exists_eq_left']
    | str s =>
      rw [hattachments] at htruthy
      have hne : s ≠ [] := by simpa [Json.truthy] using htruthy
      simp only [iterate, Option.isSome_map, hwalk]
      refine iff_of_false ?_ (by rintro ⟨items, hitems, -⟩; cases hitems)
      obtain ⟨c, s, rfl⟩ := List.exists_cons_of_ne_nil hne
      exact Bool.false_ne_true
    | obj fields =>
      rw [hattachments] at htruthy
      have hne : fields ≠ [] := by simpa [Json.truthy] using htruthy
      simp only [iterate, Option.isSome_map, hwalk]
      refine iff_of_false ?_ (by rintro ⟨items, hitems, -⟩; cases hitems)
      obtain ⟨field, fields, rfl⟩ := List.exists_cons_of_ne_nil hne
      exact Bool.false_ne_true
  · rename_i hfalsy
    exact iff_of_true rfl (.inl (Bool.eq_false_iff.mpr hfalsy))

/-! ## Steps -/

/-- What is loaded of a session after a message. -/
theorem load_concat (cutoff : Option ℚ) (sessionId : ℕ) (rows : List UserMessage) (row : UserMessage) :
    loadSessionMessagesForLlm cutoff sessionId (rows ++ [row]) = loadSessionMessagesForLlm cutoff sessionId rows ++
      if row.sessionId = sessionId ∧ cutoff.all (· ≤ row.createdAt) = true then [row] else [] := by
  unfold loadSessionMessagesForLlm
  rw [List.filter_append, List.filter_singleton, Bool.cond_eq_ite]
  exact congrArg _ (if_congr (by rw [Bool.and_eq_true, decide_eq_true_eq]) rfl rfl)

/-- **What is read after a message**: what was, and what the message names where the rebuild comes to it. -/
theorem mem_reads_concat {s : State} {row : UserMessage} {sessionId : ℕ} {cutoff : Option ℚ} {target : Target} :
    target ∈ ({ s with rows := s.rows ++ [row] } : State).reads env reader sessionId cutoff ↔
      target ∈ s.reads env reader sessionId cutoff ∨
        (row.sessionId = sessionId ∧ cutoff.all (· ≤ row.createdAt) = true) ∧
          (∀ row ∈ loadSessionMessagesForLlm cutoff sessionId s.rows, Loads row.attachments) ∧
            target ∈ namedTargets row.attachments := by
  unfold State.reads rebuildLlmMessages
  dsimp only
  rw [load_concat]
  by_cases h : row.sessionId = sessionId ∧ cutoff.all (· ≤ row.createdAt) = true
  · rw [if_pos h, walk_concat_fst, List.mem_append, and_iff_right h]
    refine or_congr_right ?_
    have hloads : (walk (rebuildOne env reader) (loadSessionMessagesForLlm cutoff sessionId s.rows)).2.isSome = true ↔
        ∀ row ∈ loadSessionMessagesForLlm cutoff sessionId s.rows, Loads row.attachments := by
      rw [walk_isSome]
      exact forall₂_congr fun row _ => rebuildOne_isSome
    rw [← hloads, ← @mem_rebuildOne env reader]
    split
    · rename_i hsome
      rw [and_iff_right hsome]
    · rename_i hnone
      exact iff_of_false List.not_mem_nil fun hmem => hnone hmem.1
  · rw [if_neg h, List.append_nil]
    exact (or_iff_left fun hmem => h hmem.1).symm

/-- Files do not change what is read. -/
@[simp] theorem reads_store (s : State) (path : Text) (owner : Option ℕ) (sessionId : ℕ) (cutoff : Option ℚ) :
    (s.store env path owner).reads env reader sessionId cutoff = s.reads env reader sessionId cutoff := rfl

/-- What is opened once a file has come up. -/
theorem opened_store {s : State} {path : Text} {owner : Option ℕ} {target : Target} :
    (target.LeadsTo env path ∧ (s.store env path owner).opened env target = some owner) ∨
      (¬ target.LeadsTo env path ∧ (s.store env path owner).opened env target = s.opened env target) := by
  cases target with
  | descriptor n => exact .inr ⟨not_false, rfl⟩
  | path p =>
    by_cases hp : env.canonical p = env.canonical path
    · refine .inl ⟨hp, ?_⟩
      change Function.update s.files (env.canonical path) (some owner) (env.canonical p) = some owner
      rw [hp, Function.update_self]
    · refine .inr ⟨hp, ?_⟩
      change Function.update s.files (env.canonical path) (some owner) (env.canonical p) = s.files (env.canonical p)
      rw [Function.update_of_ne hp]

/-- **A file comes up**: the sessions read their own just if no other has named it. -/
theorem confined_store_iff {s : State} {path : Text} {owner : Option ℕ} (h : Confined env reader s) :
    Confined env reader (s.store env path owner) ↔
      ∀ sessionId, owner ≠ some sessionId → ∀ cutoff, ∀ target ∈ s.reads env reader sessionId cutoff,
        ¬ target.LeadsTo env path := by
  constructor
  · intro ht sessionId howner cutoff target hmem hleads
    obtain ⟨-, hopened⟩ | ⟨hnot, -⟩ := @opened_store env s path owner target
    · exact howner (ht sessionId cutoff target hmem owner hopened)
    · exact hnot hleads
  · intro hnone sessionId cutoff target hmem owner' hopened'
    obtain ⟨hleads, hopened⟩ | ⟨-, hopened⟩ := @opened_store env s path owner target
    · obtain rfl : owner' = owner := Option.some.inj (hopened'.symm.trans hopened)
      by_contra howner
      exact hnone sessionId howner cutoff target hmem hleads
    · rw [hopened] at hopened'
      exact h sessionId cutoff target hmem owner' hopened'

/-- A message that is skipped names nothing. -/
theorem namedTargets_of_falsy {attachments : Json} (h : attachments.truthy = false) :
    namedTargets attachments = [] := by
  cases attachments with
  | arr items =>
    obtain rfl : items = [] := by simpa [Json.truthy] using h
    rfl
  | null | bool b | int n | float x | str s | obj fields => rfl

theorem namedTargets_or (attachments : Json) : namedTargets (attachments.or (.arr [])) = namedTargets attachments := by
  unfold Json.or
  split
  · rfl
  · rename_i hfalsy
    rw [namedTargets_of_falsy (Bool.eq_false_iff.mpr hfalsy)]
    rfl

/-- **A message comes in**: the sessions read their own just if what it names is so. -/
theorem confined_message_iff {s : State} {row : UserMessage} (h : Confined env reader s) :
    Confined env reader { s with rows := s.rows ++ [row] } ↔
      ∀ cutoff : Option ℚ, cutoff.all (· ≤ row.createdAt) = true →
        (∀ r ∈ loadSessionMessagesForLlm cutoff row.sessionId s.rows, Loads r.attachments) →
          ∀ target ∈ namedTargets row.attachments, ∀ owner ∈ s.opened env target,
            owner = some row.sessionId := by
  constructor
  · intro ht cutoff hvisible hloads target htarget
    exact ht row.sessionId cutoff target (mem_reads_concat.mpr (.inr ⟨⟨rfl, hvisible⟩, hloads, htarget⟩))
  · intro hown sessionId cutoff target hmem
    obtain hmem | ⟨⟨rfl, hvisible⟩, hloads, htarget⟩ := mem_reads_concat.mp hmem
    · exact h sessionId cutoff target hmem
    · exact hown cutoff hvisible hloads target htarget

/-- **One step** keeps the sessions to their own just under the condition. -/
theorem confined_step_iff {s t : State} {a : Label} (h : Confined env reader s) (hstep : step env s a = some t) :
    Confined env reader t ↔ NamesOwn env reader s a := by
  cases a with
  | upload sessionId hex filename size =>
    obtain rfl := Option.some.inj hstep
    rw [NamesOwn]
    by_cases hadmits : admitsUpload env filename size = true
    · rw [if_pos hadmits, forall_prop_of_true hadmits, confined_store_iff h]
      exact forall_congr' fun other => imp_congr_left (Option.some_inj.not.trans ne_comm)
    · rw [if_neg hadmits]
      exact iff_of_true h fun hadmitted => absurd hadmitted hadmits
  | message sessionId createdAt userMessage attachments =>
    obtain rfl := Option.some.inj hstep
    rw [NamesOwn]
    split
    · rename_i hskipped
      rw [Bool.and_eq_true, Bool.not_eq_true'] at hskipped
      refine iff_of_true h fun cutoff _ _ target htarget => ?_
      rw [namedTargets_of_falsy hskipped.2] at htarget
      cases htarget
    · rw [confined_message_iff h, ← namedTargets_or (attachments.getD _)]
      rfl
  | appears path =>
    obtain rfl := Option.some.inj hstep
    refine (confined_store_iff h).trans ?_
    exact forall_congr' fun sessionId => forall_prop_of_true (Option.some_ne_none _).symm

/-- **The runs in which every session reads its own** are the runs in which every step meets the condition. -/
theorem confined_run_iff {files : Text → Option (Option ℕ)} {as : List Label} {t : State} :
    Run (step env) (fun s a => ∃ t ∈ step env s a, Confined env reader t) { files, rows := [] } as t ↔
      Run (step env) (NamesOwn env reader) { files, rows := [] } as t := by
  refine Run.leadsTo_iff (I := Confined env reader) (fun _ _ _ => confined_step_iff) (fun _ _ _ _ _ ht => ht) ?_
  intro sessionId cutoff target hmem
  cases hmem

/-- What `save_attachment` returns names the file that it has stored, or none. -/
theorem targetOf_metadata {sessionId size : ℕ} {hex filename : Text} {target : Target}
    (h : targetOf (.obj (metadata env sessionId hex filename size)) = some target) :
    target = .path (uploadPath sessionId hex filename) := by
  change (match Json.str (getFileType env filename) with
    | .str ['i', 'm', 'a', 'g', 'e'] => imageTarget (.str (uploadPath sessionId hex filename))
    | .str ['t', 'e', 'x', 't'] => textTarget (.str (uploadPath sessionId hex filename))
    | _ => none) = some target at h
  split at h
  · rw [imageTarget] at h
    split at h
    · cases h
    · exact (Option.some.inj h).symm
  · exact (Option.some.inj h).symm
  · cases h

/-- **A message that sends back what an upload returned** names the file of its session. -/
theorem namesOwn_metadata {s : State} {sessionId size : ℕ} {hex filename userMessage : Text} {createdAt : ℚ}
    (h : s.files (env.canonical (uploadPath sessionId hex filename)) = some (some sessionId)) :
    NamesOwn env reader s (.message sessionId createdAt userMessage
      (some (.arr [.obj (metadata env sessionId hex filename size)]))) := by
  intro cutoff _ _ target htarget owner howner
  rw [Option.getD_some, namedTargets, List.takeWhile_cons_of_pos rfl, List.takeWhile_nil, List.mem_filterMap] at htarget
  obtain ⟨item, hitem, hnamed⟩ := htarget
  obtain rfl := List.mem_singleton.mp hitem
  obtain rfl := targetOf_metadata hnamed
  exact Option.some.inj (howner.symm.trans h)

/-! ## A message that names another file -/

/-- Paths lead to themselves. -/
def sampleEnv : Env where
  u := Unicode.asciiOnly
  guessType _ := none
  str _ := []
  canonical p := p
  hasDescriptor n := n = 0 || n = 1 || n = 2

/-- Files that can be read. -/
def sampleReader : Reader where
  image _ := none
  text _ := some []

/-- A server with a file of its own. -/
def oneFile : State where
  files p := if p = ".env".toList then some none else none
  rows := []

/-- A message whose attachment is the path of that file. -/
def namesOther : Label :=
  .message 1 0 "hi".toList (some (.arr [.obj [("file_type", .str "text".toList), ("path", .str ".env".toList)]]))

/-- **A message makes the server read a file of its own.** -/
theorem namesOther_not_confined : ¬ ∀ as t,
    Run (step sampleEnv) Always oneFile as t → Confined sampleEnv sampleReader t := by
  intro hall
  have h := hall [namesOther] _ (.cons trivial rfl (.nil _)) 1 none (.path ".env".toList)
  have hread : Target.path ".env".toList ∈ State.reads sampleEnv sampleReader
      { oneFile with rows := [userRow 1 0 "hi".toList
        (.arr [.obj [("file_type", .str "text".toList), ("path", .str ".env".toList)]])] } 1 none := by
    rw [← List.nil_append [userRow _ _ _ _]]
    exact mem_reads_concat.mpr (.inr ⟨⟨rfl, rfl⟩, List.forall_mem_nil _, List.mem_singleton_self _⟩)
  have howner := h hread none rfl
  cases howner

end DBClaw.Attachments
