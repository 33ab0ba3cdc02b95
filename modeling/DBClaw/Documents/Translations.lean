import DBClaw.Library.Tallies
import DBClaw.Library.Text
import Mathlib

/-! # Translations of documents
A built-in document comes in several languages, which share a group. `select_document_translations` is to show one of
them, and to leave all other documents alone. The groups are made of built-in documents only, but whether a document is
in a group is told by its group alone. `selectsFaithfully_iff` says for which documents that is the same. -/

namespace DBClaw.Documents

/-- What is read of a `DocDocument`. -/
structure DocDocument where
  id : ℕ
  contentLocale : Text
  translationGroupId : Option Text
  isBuiltin : Bool
  deriving DecidableEq, Repr

/-- `DEFAULT_LOCALE`. -/
def defaultLocale : Text := ['z', 'h', '-', 'C', 'N']

/-! ## The selection -/

/-- A document is added to its group, if it is a built-in one and has one. -/
def groupDocument (grouped : AList fun _ : Text => List DocDocument) (doc : DocDocument) :
    AList fun _ : Text => List DocDocument :=
  let groupId := doc.translationGroupId.getD []
  if doc.isBuiltin ∧ groupId ≠ [] then Tallies.modify grouped groupId fun variants => variants.getD [] ++ [doc]
  else grouped

/-- `grouped`. -/
def groupedDocuments (documents : List DocDocument) : AList fun _ : Text => List DocDocument :=
  documents.foldl groupDocument ∅

/-- `preferred or fallback or variants[0]`. -/
def chooseVariant (locale : Text) (variants : List DocDocument) : Option DocDocument :=
  (variants.find? (·.contentLocale = locale)).or ((variants.find? (·.contentLocale = defaultLocale)).or variants.head?)

/-- `choices`. -/
def choices (documents : List DocDocument) (locale : Text) (groupId : Text) : Option DocDocument :=
  ((groupedDocuments documents).lookup groupId).bind (chooseVariant locale)

/-- The loop over the documents; `emitted` are the groups that are shown already. -/
def emitDocuments (choices : Text → Option DocDocument) : List Text → List DocDocument → List DocDocument
  | _, [] => []
  | emitted, doc :: documents =>
    match doc.translationGroupId with
    | none => doc :: emitDocuments choices emitted documents
    | some groupId =>
      match choices groupId with
      | none => doc :: emitDocuments choices emitted documents
      | some choice =>
        if groupId ∈ emitted then emitDocuments choices emitted documents
        else choice :: emitDocuments choices (groupId :: emitted) documents

/-- **`select_document_translations`.** -/
def selectDocumentTranslations (documents : List DocDocument) (locale : Text) : List DocDocument :=
  emitDocuments (choices documents locale) [] documents

/-! ## What is to be selected -/

/-- The group of a built-in document; a user document has none. -/
def DocDocument.group (doc : DocDocument) : Option Text :=
  if doc.isBuiltin then doc.translationGroupId.filter (· ≠ []) else none

/-- The members of a group. -/
def members (groupId : Text) (documents : List DocDocument) : List DocDocument :=
  documents.filter fun doc => doc.group = some groupId

/-- The member of a group that is to be shown: the first one in the locale, or else the first one in the default locale,
or else the first one. -/
def translation (documents : List DocDocument) (locale groupId : Text) : List DocDocument :=
  let variants := members groupId documents
  let preferred := variants.filter (·.contentLocale = locale)
  let fallback := variants.filter (·.contentLocale = defaultLocale)
  (preferred ++ fallback ++ variants).take 1

/-- **What is shown in the place of a document**: the document itself if it has no group; the translation of its group,
if it is the first one of it; or else nothing. -/
def shownFor (all : List DocDocument) (locale : Text) (earlier : List DocDocument) (doc : DocDocument) : List DocDocument :=
  match doc.group with
  | none => [doc]
  | some groupId => if members groupId earlier = [] then translation all locale groupId else []

/-- What is shown in the places of some documents. -/
def shownAfter (all : List DocDocument) (locale : Text) : List DocDocument → List DocDocument → List DocDocument
  | _, [] => []
  | earlier, doc :: later => shownFor all locale earlier doc ++ shownAfter all locale (earlier ++ [doc]) later

/-- **The faithful selection**: what is shown in the places of all documents. -/
def faithfulSelection (documents : List DocDocument) (locale : Text) : List DocDocument :=
  shownAfter documents locale [] documents

/-- No user document carries the group of a built-in one. -/
def GroupsBuiltin (documents : List DocDocument) : Prop :=
  ∀ doc ∈ documents, doc.isBuiltin = false → ∀ groupId ∈ doc.translationGroupId, members groupId documents = []

/-! ## Groups -/

variable {documents : List DocDocument} {locale : Text} {groupId : Text} {doc : DocDocument}

theorem group_eq_some : doc.group = some groupId ↔
    doc.isBuiltin = true ∧ doc.translationGroupId = some groupId ∧ groupId ≠ [] := by
  unfold DocDocument.group
  cases doc.isBuiltin with
  | false => simp
  | true => simp [Option.filter_eq_some_iff]

theorem mem_members : doc ∈ members groupId documents ↔ doc ∈ documents ∧ doc.group = some groupId := by
  rw [members, List.mem_filter, decide_eq_true_eq]

theorem members_append (earlier later : List DocDocument) :
    members groupId (earlier ++ later) = members groupId earlier ++ members groupId later := List.filter_append ..

theorem members_cons (doc : DocDocument) (documents : List DocDocument) : members groupId (doc :: documents) =
    if doc.group = some groupId then doc :: members groupId documents else members groupId documents := by
  rw [members, List.filter_cons, ← members]
  simp only [decide_eq_true_eq]

/-- The groups of some documents and one more. -/
theorem members_concat_ne_nil (earlier : List DocDocument) (doc : DocDocument) :
    members groupId (earlier ++ [doc]) ≠ [] ↔ members groupId earlier ≠ [] ∨ doc.group = some groupId := by
  rw [members_append, members_cons, ne_eq, List.append_eq_nil_iff, not_and_or]
  by_cases hgroup : doc.group = some groupId
  · simp [hgroup]
  · rw [if_neg hgroup]
    simp [hgroup, members]

/-- A document is grouped by its group. -/
theorem groupDocument_eq (grouped : AList fun _ : Text => List DocDocument) (doc : DocDocument) :
    groupDocument grouped doc =
      match doc.group with
      | some groupId => Tallies.modify grouped groupId fun variants => variants.getD [] ++ [doc]
      | none => grouped := by
  cases hgroup : doc.group with
  | some groupId =>
    obtain ⟨hbuiltin, hid, hne⟩ := group_eq_some.mp hgroup
    rw [groupDocument, hid, Option.getD_some, if_pos ⟨hbuiltin, hne⟩]
  | none =>
    rw [groupDocument, if_neg]
    rintro ⟨hbuiltin, hne⟩
    obtain ⟨groupId, hid⟩ : ∃ groupId, doc.translationGroupId = some groupId := by
      cases hid : doc.translationGroupId with
      | none => exact absurd (by rw [hid]; rfl) hne
      | some groupId => exact ⟨groupId, rfl⟩
    rw [hid, Option.getD_some] at hne
    rw [group_eq_some.mpr ⟨hbuiltin, hid, hne⟩] at hgroup
    cases hgroup

/-- The documents of a group, one after another. -/
def addVariants (variants : List DocDocument) (old : Option (List DocDocument)) : Option (List DocDocument) :=
  Tallies.run (fun doc old => old.getD [] ++ [doc]) variants old

theorem addVariants_none (variants : List DocDocument) :
    addVariants variants none = if variants = [] then none else some variants := by
  induction variants using List.reverseRecOn with
  | nil => rfl
  | append_singleton variants doc ih =>
    rw [if_neg (List.append_ne_nil_of_right_ne_nil variants (List.cons_ne_nil doc []))]
    rw [addVariants] at ih
    rw [addVariants, Tallies.run_append_singleton, ih]
    by_cases hnil : variants = []
    · rw [if_pos hnil, hnil]
      rfl
    · rw [if_neg hnil]
      rfl

theorem lookup_foldl_groupDocument (grouped : AList fun _ : Text => List DocDocument) :
    (documents.foldl groupDocument grouped).lookup groupId =
      addVariants (members groupId documents) (grouped.lookup groupId) := by
  induction documents generalizing grouped with
  | nil => rfl
  | cons doc documents ih =>
    rw [List.foldl_cons, ih, groupDocument_eq, members_cons]
    cases hgroup : doc.group with
    | none => rfl
    | some other =>
      dsimp only
      rw [Tallies.lookup_modify]
      by_cases heq : groupId = other
      · rw [if_pos heq, if_pos (congrArg some heq.symm), heq]
        rfl
      · rw [if_neg heq, if_neg fun hsame => heq (Option.some.inj hsame).symm]

/-- **The choices are the translations of the groups.** -/
theorem choices_eq (documents : List DocDocument) (locale groupId : Text) :
    choices documents locale groupId = (translation documents locale groupId).head? := by
  have hlookup : (groupedDocuments documents).lookup groupId = addVariants (members groupId documents) none :=
    lookup_foldl_groupDocument ∅
  rw [choices, hlookup, addVariants_none, translation]
  split
  · rename_i hnil
    rw [hnil]
    rfl
  · dsimp only [Option.bind_some, chooseVariant]
    rw [List.head?_take, if_neg one_ne_zero, List.head?_append, List.head?_append, List.head?_filter, List.head?_filter,
      Option.or_assoc]

theorem choices_isSome : (choices documents locale groupId).isSome ↔ members groupId documents ≠ [] := by
  rw [choices_eq, translation, List.head?_take, if_neg one_ne_zero, List.isSome_head?]
  constructor
  · intro h hnil
    rw [hnil] at h
    exact h rfl
  · intro h hnil
    exact h (List.append_eq_nil_iff.mp hnil).2

/-- What is chosen for a group is a member of it. -/
theorem mem_members_of_choice {choice : DocDocument} (h : choices documents locale groupId = some choice) :
    choice ∈ members groupId documents := by
  rw [choices_eq] at h
  have hmem := List.mem_of_mem_take (List.mem_of_head? h)
  rcases List.mem_append.mp hmem with hfound | hfound
  · rcases List.mem_append.mp hfound with hpreferred | hfallback
    · exact List.mem_of_mem_filter hpreferred
    · exact List.mem_of_mem_filter hfallback
  · exact hfound

theorem translation_of_choice {choice : DocDocument} (h : choices documents locale groupId = some choice) :
    translation documents locale groupId = [choice] := by
  rw [choices_eq] at h
  have hlength : (translation documents locale groupId).length ≤ 1 := List.length_take_le 1 _
  revert h hlength
  generalize translation documents locale groupId = l
  intro h hlength
  obtain ⟨rest, rfl⟩ := List.head?_eq_some_iff.mp h
  rw [List.length_cons] at hlength
  rw [List.eq_nil_of_length_eq_zero (by omega : rest.length = 0)]

/-! ## Which selections are faithful -/

/-- **Where the groups are those of built-in documents, the selection is faithful.** -/
theorem emitDocuments_eq (h : GroupsBuiltin documents) (locale : Text) (earlier later : List DocDocument)
    (hall : earlier ++ later = documents) (emitted : List Text)
    (hemitted : ∀ groupId, groupId ∈ emitted ↔ members groupId earlier ≠ []) :
    emitDocuments (choices documents locale) emitted later = shownAfter documents locale earlier later := by
  induction later generalizing earlier emitted with
  | nil => rfl
  | cons doc later ih =>
    have hmem : doc ∈ documents := hall ▸ List.mem_append_right earlier List.mem_cons_self
    have hnext : earlier ++ [doc] ++ later = documents := by rw [List.append_assoc]; exact hall
    rw [emitDocuments, shownAfter, shownFor]
    cases hgroup : doc.group with
    | some groupId =>
      obtain ⟨-, hid, -⟩ := group_eq_some.mp hgroup
      have hne : members groupId documents ≠ [] := List.ne_nil_of_mem (mem_members.mpr ⟨hmem, hgroup⟩)
      obtain ⟨choice, hchoice⟩ := Option.isSome_iff_exists.mp ((@choices_isSome _ locale _).mpr hne)
      rw [hid]
      dsimp only
      rw [hchoice]
      dsimp only
      by_cases hfirst : members groupId earlier = []
      · rw [if_neg fun hin => (hemitted groupId).mp hin hfirst, if_pos hfirst, translation_of_choice hchoice]
        refine congrArg (choice :: ·) (ih (earlier ++ [doc]) hnext (groupId :: emitted) fun other => ?_)
        rw [List.mem_cons, hemitted, members_concat_ne_nil, hgroup, Option.some_inj, or_comm, eq_comm]
      · rw [if_pos ((hemitted groupId).mpr hfirst), if_neg hfirst, List.nil_append]
        refine ih (earlier ++ [doc]) hnext emitted fun other => ?_
        rw [hemitted, members_concat_ne_nil, hgroup, Option.some_inj]
        refine ⟨.inl, fun hor => hor.elim id fun hsame => ?_⟩
        rw [← hsame]
        exact hfirst
    | none =>
      have hrest := ih (earlier ++ [doc]) hnext emitted fun other => by
        rw [hemitted, members_concat_ne_nil, hgroup]
        simp
      cases hid : doc.translationGroupId with
      | none =>
        dsimp only
        rw [hrest]
        rfl
      | some groupId =>
        have hnone : choices documents locale groupId = none := by
          rw [← Option.not_isSome_iff_eq_none, choices_isSome, not_not]
          by_cases hbuiltin : doc.isBuiltin = true
          · -- the group of a built-in document without one is empty
            have hnil : groupId = [] := by
              by_contra hne
              rw [group_eq_some.mpr ⟨hbuiltin, hid, hne⟩] at hgroup
              cases hgroup
            refine List.filter_eq_nil_iff.mpr fun other _ hother => ?_
            exact (group_eq_some.mp (of_decide_eq_true hother)).2.2 hnil
          · exact h doc hmem (Bool.not_eq_true _ ▸ hbuiltin) groupId hid
        dsimp only
        rw [hnone, hrest]
        rfl

/-- A user document is shown in its place. -/
theorem mem_shownAfter (all : List DocDocument) (locale : Text) (earlier later : List DocDocument) (hdoc : doc ∈ later)
    (hgroup : doc.group = none) : doc ∈ shownAfter all locale earlier later := by
  induction later generalizing earlier with
  | nil => cases hdoc
  | cons other later ih =>
    rw [shownAfter]
    rcases List.mem_cons.mp hdoc with rfl | hdoc
    · rw [shownFor, hgroup]
      exact List.mem_append_left _ List.mem_cons_self
    · exact List.mem_append_right _ (ih (earlier ++ [other]) hdoc)

/-- What is emitted is chosen for a group, or has none for which anything is chosen. -/
theorem of_mem_emitDocuments {choices : Text → Option DocDocument} {emitted : List Text}
    (hdoc : doc ∈ emitDocuments choices emitted documents) :
    (∃ groupId, choices groupId = some doc) ∨ ∀ groupId ∈ doc.translationGroupId, choices groupId = none := by
  induction documents generalizing emitted with
  | nil => cases hdoc
  | cons other documents ih =>
    rw [emitDocuments] at hdoc
    cases hid : other.translationGroupId with
    | none =>
      rw [hid] at hdoc
      rcases List.mem_cons.mp hdoc with rfl | hdoc
      · right
        rw [hid]
        exact fun _ hmem => by cases hmem
      · exact ih hdoc
    | some groupId =>
      rw [hid] at hdoc
      dsimp only at hdoc
      cases hchoice : choices groupId with
      | none =>
        rw [hchoice] at hdoc
        rcases List.mem_cons.mp hdoc with rfl | hdoc
        · right
          rw [hid]
          intro other hother
          rwa [← Option.some.inj hother]
        · exact ih hdoc
      | some choice =>
        rw [hchoice] at hdoc
        dsimp only at hdoc
        split at hdoc
        · exact ih hdoc
        · rcases List.mem_cons.mp hdoc with rfl | hdoc
          · exact .inl ⟨groupId, hchoice⟩
          · exact ih hdoc

/-- **The selection is faithful just where the groups are those of built-in documents.** -/
theorem select_eq_faithful_iff (documents : List DocDocument) (locale : Text) :
    selectDocumentTranslations documents locale = faithfulSelection documents locale ↔ GroupsBuiltin documents := by
  constructor
  · intro hsame doc hdoc huser groupId hid
    by_contra hne
    have hgroup : doc.group = none := by rw [DocDocument.group, huser, if_neg Bool.false_ne_true]
    have hshown : doc ∈ selectDocumentTranslations documents locale := by
      rw [hsame]
      exact mem_shownAfter documents locale [] documents hdoc hgroup
    rcases of_mem_emitDocuments hshown with ⟨other, hchoice⟩ | hnone
    · -- what is chosen for a group is a built-in document
      have hmember := (mem_members.mp (mem_members_of_choice hchoice)).2
      rw [hgroup] at hmember
      cases hmember
    · have hsome := (@choices_isSome _ locale _).mpr hne
      rw [hnone groupId hid] at hsome
      cases hsome
  · intro h
    exact emitDocuments_eq h locale [] documents rfl [] fun groupId => by simp [members]

/-! ## A selection of a selection -/

/-- A document carries the group. -/
def Carried (groupId : Text) (documents : List DocDocument) : Prop :=
  ∃ doc ∈ documents, doc.translationGroupId = some groupId

theorem carried_cons : Carried groupId (doc :: documents) ↔
    doc.translationGroupId = some groupId ∨ Carried groupId documents := List.exists_mem_cons_iff ..

instance : Decidable (Carried groupId documents) :=
  inferInstanceAs (Decidable (∃ doc ∈ documents, doc.translationGroupId = some groupId))

/-- Choices that are members of their groups. -/
structure ChoosesMembers (choices : Text → Option DocDocument) (documents : List DocDocument) : Prop where
  group : ∀ groupId choice, choices groupId = some choice → choice.group = some groupId
  total : ∀ doc ∈ documents, ∀ groupId, doc.group = some groupId → (choices groupId).isSome

theorem ChoosesMembers.tail {choices : Text → Option DocDocument} (h : ChoosesMembers choices (doc :: documents)) :
    ChoosesMembers choices documents where
  group := h.group
  total other hother := h.total other (List.mem_cons_of_mem _ hother)

/-- **What is emitted of a group**: its choice, when a document comes that carries the group, and once. -/
theorem members_emitDocuments {choices : Text → Option DocDocument} (h : ChoosesMembers choices documents)
    (emitted : List Text) : members groupId (emitDocuments choices emitted documents) =
      if groupId ∉ emitted ∧ Carried groupId documents then (choices groupId).toList else [] := by
  induction documents generalizing emitted with
  | nil => rw [if_neg fun hand => by obtain ⟨_, hmem, _⟩ := hand.2; cases hmem]; rfl
  | cons doc documents ih =>
    rw [emitDocuments]
    simp only [carried_cons]
    -- a document that is emitted itself is not a member of the group
    have hself (hnone : ∀ id ∈ doc.translationGroupId, choices id = none) :
        members groupId (doc :: emitDocuments choices emitted documents) =
          if groupId ∉ emitted ∧ (doc.translationGroupId = some groupId ∨ Carried groupId documents) then
            (choices groupId).toList else [] := by
      have hgroup : doc.group ≠ some groupId := by
        intro hgroup
        have hsome := h.total doc List.mem_cons_self groupId hgroup
        rw [hnone groupId (group_eq_some.mp hgroup).2.1] at hsome
        cases hsome
      rw [members_cons, if_neg hgroup, ih h.tail]
      by_cases hid : doc.translationGroupId = some groupId
      · rw [hnone groupId hid, Option.toList_none, ite_self, ite_self]
      · simp only [hid, false_or]
    cases hid : doc.translationGroupId with
    | none =>
      rw [hid] at hself
      exact hself fun _ hmem => by cases hmem
    | some id =>
      rw [hid] at hself
      dsimp only
      cases hchoice : choices id with
      | none =>
        refine hself fun other hother => ?_
        rwa [← Option.some.inj hother]
      | some choice =>
        dsimp only
        split
        · rename_i hin
          rw [ih h.tail]
          by_cases heq : id = groupId
          · subst heq
            rw [if_neg fun hand => hand.1 hin, if_neg fun hand => hand.1 hin]
          · simp only [Option.some_inj, heq, false_or]
        · rename_i hnew
          rw [members_cons, h.group id choice hchoice, ih h.tail]
          by_cases heq : id = groupId
          · subst heq
            rw [if_pos rfl, if_neg fun hand => hand.1 List.mem_cons_self, if_pos ⟨hnew, .inl rfl⟩, hchoice]
            rfl
          · simp only [Option.some_inj, heq, false_or, List.mem_cons, Ne.symm heq]
            simp

/-- Emitting again what is emitted changes nothing. -/
theorem emitDocuments_emitDocuments {choices : Text → Option DocDocument} (h : ChoosesMembers choices documents)
    (emitted : List Text) : emitDocuments choices emitted (emitDocuments choices emitted documents) =
      emitDocuments choices emitted documents := by
  induction documents generalizing emitted with
  | nil => rfl
  | cons doc documents ih =>
    have hself (hnone : ∀ id ∈ doc.translationGroupId, choices id = none) :
        emitDocuments choices emitted (doc :: emitDocuments choices emitted documents) =
          doc :: emitDocuments choices emitted documents := by
      rw [emitDocuments]
      cases hid : doc.translationGroupId with
      | none =>
        dsimp only
        rw [ih h.tail]
      | some id =>
        dsimp only
        rw [hnone id hid]
        dsimp only
        rw [ih h.tail]
    rw [emitDocuments]
    cases hid : doc.translationGroupId with
    | none =>
      rw [hid] at hself
      exact hself fun _ hmem => by cases hmem
    | some id =>
      rw [hid] at hself
      dsimp only
      cases hchoice : choices id with
      | none =>
        refine hself fun other hother => ?_
        rwa [← Option.some.inj hother]
      | some choice =>
        dsimp only
        split
        · exact ih h.tail emitted
        · rename_i hnew
          rw [emitDocuments, (group_eq_some.mp (h.group id choice hchoice)).2.1]
          dsimp only
          rw [hchoice]
          dsimp only
          rw [if_neg hnew, ih h.tail]

/-- Only the choices for the groups that are carried count. -/
theorem emitDocuments_congr {choices choices' : Text → Option DocDocument}
    (h : ∀ groupId, Carried groupId documents → choices groupId = choices' groupId) (emitted : List Text) :
    emitDocuments choices emitted documents = emitDocuments choices' emitted documents := by
  induction documents generalizing emitted with
  | nil => rfl
  | cons doc documents ih =>
    have htail := ih fun groupId hcarried => h groupId (carried_cons.mpr (.inr hcarried))
    rw [emitDocuments, emitDocuments]
    cases hid : doc.translationGroupId with
    | none => exact congrArg (doc :: ·) (htail emitted)
    | some id =>
      dsimp only
      rw [h id (carried_cons.mpr (.inl hid))]
      cases choices' id with
      | none => exact congrArg (doc :: ·) (htail emitted)
      | some choice =>
        dsimp only
        rw [htail, htail]

/-- What is emitted carries groups that are carried. -/
theorem Carried.of_emitDocuments {choices : Text → Option DocDocument} (hchoices : ChoosesMembers choices documents)
    {emitted : List Text} (h : Carried groupId (emitDocuments choices emitted documents)) :
    Carried groupId documents := by
  induction documents generalizing emitted with
  | nil => exact h
  | cons doc documents ih =>
    rw [carried_cons]
    rw [emitDocuments] at h
    cases hid : doc.translationGroupId with
    | none =>
      rw [hid] at h
      rcases carried_cons.mp h with hsame | h
      · rw [hid] at hsame
        cases hsame
      · exact .inr (ih hchoices.tail h)
    | some id =>
      rw [hid] at h
      dsimp only at h
      cases hchoice : choices id with
      | none =>
        rw [hchoice] at h
        rcases carried_cons.mp h with hsame | h
        · exact .inl (hid.symm.trans hsame)
        · exact .inr (ih hchoices.tail h)
      | some choice =>
        rw [hchoice] at h
        dsimp only at h
        split at h
        · exact .inr (ih hchoices.tail h)
        · rcases carried_cons.mp h with hsame | h
          · rw [(group_eq_some.mp (hchoices.group id choice hchoice)).2.1] at hsame
            exact .inl hsame
          · exact .inr (ih hchoices.tail h)

theorem choosesMembers (documents : List DocDocument) (locale : Text) :
    ChoosesMembers (choices documents locale) documents where
  group _ _ hchoice := (mem_members.mp (mem_members_of_choice hchoice)).2
  total _ hdoc _ hgroup := choices_isSome.mpr (List.ne_nil_of_mem (mem_members.mpr ⟨hdoc, hgroup⟩))

/-- **What is chosen of a selection is what was chosen.** -/
theorem choices_select (documents : List DocDocument) (locale : Text) (h : Carried groupId documents) :
    choices (selectDocumentTranslations documents locale) locale groupId = choices documents locale groupId := by
  have hmembers : members groupId (selectDocumentTranslations documents locale) =
      (choices documents locale groupId).toList := by
    rw [selectDocumentTranslations, members_emitDocuments (choosesMembers documents locale), if_pos]
    exact ⟨List.not_mem_nil, h⟩
  cases hchoice : choices documents locale groupId with
  | none =>
    rw [hchoice, Option.toList_none] at hmembers
    rw [← Option.not_isSome_iff_eq_none, choices_isSome, hmembers]
    exact fun hne => hne rfl
  | some choice =>
    rw [hchoice, Option.toList_some] at hmembers
    have hsome : (choices (selectDocumentTranslations documents locale) locale groupId).isSome := by
      rw [choices_isSome, hmembers]
      exact List.cons_ne_nil choice []
    obtain ⟨again, hagain⟩ := Option.isSome_iff_exists.mp hsome
    have hmem := mem_members_of_choice hagain
    rw [hmembers, List.mem_singleton] at hmem
    rw [hagain, hmem]

/-- **The selection is idempotent.** -/
theorem select_select (documents : List DocDocument) (locale : Text) :
    selectDocumentTranslations (selectDocumentTranslations documents locale) locale =
      selectDocumentTranslations documents locale := by
  have hchoices := choosesMembers documents locale
  rw [selectDocumentTranslations]
  calc emitDocuments (choices (selectDocumentTranslations documents locale) locale) []
        (selectDocumentTranslations documents locale)
      = emitDocuments (choices documents locale) [] (selectDocumentTranslations documents locale) :=
        emitDocuments_congr (fun groupId h => choices_select documents locale (h.of_emitDocuments hchoices)) []
    _ = selectDocumentTranslations documents locale := emitDocuments_emitDocuments hchoices []

/-- **A faithful filter**: the selection is the faithful one, and selecting from it changes nothing. -/
def SelectsFaithfully (documents : List DocDocument) (locale : Text) : Prop :=
  selectDocumentTranslations documents locale = faithfulSelection documents locale ∧
    selectDocumentTranslations (selectDocumentTranslations documents locale) locale =
      selectDocumentTranslations documents locale

/-- **The selection is a faithful filter just where no user document carries the group of a built-in one.** -/
theorem selectsFaithfully_iff (documents : List DocDocument) (locale : Text) :
    SelectsFaithfully documents locale ↔ GroupsBuiltin documents := by
  constructor
  · exact fun h => (select_eq_faithful_iff documents locale).mp h.1
  · exact fun h => ⟨(select_eq_faithful_iff documents locale).mpr h, select_select documents locale⟩

/-- A built-in document and a copy of it that a user has made. -/
def copiedDocuments : List DocDocument :=
  [{ id := 1, contentLocale := defaultLocale, translationGroupId := some ['g'], isBuiltin := true },
    { id := 2, contentLocale := defaultLocale, translationGroupId := some ['g'], isBuiltin := false }]

/-- **The copy is lost**: it carries the group of a built-in document and is taken for a translation of it. -/
theorem copy_not_selected : ¬ SelectsFaithfully copiedDocuments defaultLocale ∧
    ∀ doc ∈ selectDocumentTranslations copiedDocuments defaultLocale, doc.id ≠ 2 := by
  refine ⟨fun h => ?_, ?_⟩
  · have hdiffer : selectDocumentTranslations copiedDocuments defaultLocale ≠
        faithfulSelection copiedDocuments defaultLocale := by with_unfolding_all decide
    exact hdiffer h.1
  · with_unfolding_all decide

end DBClaw.Documents
