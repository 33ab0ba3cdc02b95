import DBClaw.Config.Store

/-! # When the configuration store is a faithful map
What is overwritten in a session is the attribute of an encrypted row, and a commit that writes it makes the row
unreadable. Of a row that stores what was given, an operation makes one that does so under a condition on the
operation and on the state before it. -/

namespace DBClaw.Config

open Runs

variable {c : Cipher} {checks : Checks}

/-! ## The open session -/

/-- **The overwritten attributes** are those of encrypted rows, and not longer than what the row encrypts. -/
def ShownOk (c : Cipher) (s : State) : Prop :=
  ∀ key, ∀ shown ∈ s.shown key, ∃ config ∈ s.table key, config.isEncrypted = true ∧ config.value ≠ [] ∧
    ∃ text, c.decrypt config.value = some text ∧ shown.length ≤ text.length

@[simp] theorem SystemConfig.overwrite_none (config : SystemConfig) : config.overwrite none = config := rfl

/-- A key without an overwritten attribute. -/
theorem State.view_of_shown {s : State} {key : Text} (h : s.shown key = none) : s.view key = s.table key := by
  rw [State.view, h]
  exact Option.map_id_apply

theorem State.view_eq_none {s : State} {key : Text} : s.view key = none ↔ s.table key = none :=
  Option.map_eq_none_iff

theorem decryptValue_of_ne {encrypted : Text} (h : encrypted ≠ []) :
    decryptValue c encrypted = c.decrypt encrypted := by
  rw [decryptValue, if_neg (by simpa using h)]

@[simp] theorem State.reveal_table (s : State) (key : Text) : (s.reveal c key).table = s.table := by
  unfold State.reveal
  split
  · rfl
  · split <;> rfl

@[simp] theorem State.reveal_entries (s : State) (key : Text) : (s.reveal c key).entries = s.entries := by
  unfold State.reveal
  split
  · rfl
  · split <;> rfl

/-- What is shown after a row has been revealed. -/
theorem State.mem_shown_reveal {s : State} {key k : Text} {shown : Text} (h : shown ∈ (s.reveal c key).shown k) :
    shown ∈ s.shown k ∨ k = key ∧ ∃ config ∈ s.view key,
      config.isEncrypted = true ∧ config.value ≠ [] ∧ c.decrypt config.value = some shown := by
  unfold State.reveal at h
  split at h
  · exact .inl h
  · rename_i config hview
    split at h
    · rename_i hencrypted
      rw [Bool.and_eq_true, Bool.not_eq_true', List.isEmpty_eq_false_iff] at hencrypted
      change Function.update s.shown key _ k = some shown at h
      by_cases hk : k = key
      · subst hk
        rw [Function.update_self, Option.or_eq_some_iff,
          decryptValue_of_ne hencrypted.2] at h
        obtain hdecrypt | ⟨-, hshown⟩ := h
        · exact .inr ⟨rfl, config, hview, hencrypted.1, hencrypted.2, hdecrypt⟩
        · exact .inl hshown
      · rw [Function.update_of_ne hk] at h
        exact .inl h
    · exact .inl h

/-- Revealing a row once more does not make the attribute longer. -/
theorem shownOk_reveal {s : State} (h : ShownOk c s) (key : Text) : ShownOk c (s.reveal c key) := by
  intro k shown hshown
  rw [State.reveal_table]
  obtain hshown | ⟨rfl, config, hview, hencrypted, hne, hdecrypt⟩ := State.mem_shown_reveal hshown
  · exact h k shown hshown
  · obtain ⟨row, hrow, rfl⟩ := Option.map_eq_some_iff.mp hview
    cases hold : s.shown k with
    | none =>
      rw [hold] at hne hdecrypt
      exact ⟨row, hrow, hencrypted, hne, shown, hdecrypt, le_rfl⟩
    | some old =>
      rw [hold] at hdecrypt
      obtain ⟨row', hrow', hencrypted', hne', text, htext, hle⟩ := h k old hold
      have hlt : shown.length < old.length := c.length_lt hdecrypt
      exact ⟨row', hrow', hencrypted', hne', text, htext, by omega⟩

theorem shownOk_revealAll {s : State} (h : ShownOk c s) (order : List Text) : ShownOk c (revealAll c s order) := by
  induction order generalizing s with
  | nil => exact h
  | cons key keys ih =>
    unfold revealAll
    split
    · exact ih (shownOk_reveal h key)
    · exact h

@[simp] theorem revealAll_table (s : State) (order : List Text) : (revealAll c s order).table = s.table := by
  induction order generalizing s with
  | nil => rfl
  | cons key keys ih =>
    unfold revealAll
    split
    · rw [ih, State.reveal_table]
    · rfl

/-- A session in which nothing is shown. -/
theorem shownOk_of_shown {s : State} (h : s.shown = fun _ => none) : ShownOk c s := by
  intro key shown hshown
  rw [h] at hshown
  cases hshown

theorem shownOk_setConfig (nonce : ℕ) (key value valueType : Text) (category : Option Text) (isEncrypted : Bool)
    (s : State) : ShownOk c (setConfig c nonce key value valueType category isEncrypted s) :=
  shownOk_reveal (shownOk_of_shown rfl) key

theorem shownOk_updateConfig {s : State} (h : ShownOk c s) (nonce : ℕ) (key : Text) (data : SystemConfigUpdate)
    (refreshes : Bool) : ShownOk c (updateConfig c checks nonce key data refreshes s) := by
  unfold updateConfig
  split
  · exact h
  · split
    · dsimp only
      split
      · exact shownOk_reveal (shownOk_of_shown rfl) key
      · exact shownOk_of_shown rfl
    · exact h

theorem shownOk_deleteConfig {s : State} (h : ShownOk c s) (key : Text) : ShownOk c (deleteConfig key s) := by
  unfold deleteConfig
  split
  · exact h
  · exact shownOk_of_shown rfl

/-- **Every step keeps the overwritten attributes so.** -/
theorem shownOk_step {s t : State} {a : Operation} (h : ShownOk c s) (hstep : step c checks s a = some t) :
    ShownOk c t := by
  obtain rfl := Option.some.inj hstep
  change ShownOk c (a.apply c checks s)
  cases a with
  | newSession => exact shownOk_of_shown rfl
  | set nonce key value valueType category isEncrypted => exact shownOk_setConfig _ _ _ _ _ _ s
  | create nonce key value valueType category isEncrypted =>
    rw [Operation.apply]
    split
    · exact shownOk_setConfig _ _ _ _ _ _ s
    · exact h
  | update nonce key data refreshes => exact shownOk_updateConfig h nonce key data refreshes
  | delete key => exact shownOk_deleteConfig h key
  | getAll category order => exact shownOk_revealAll h order
  | get key => exact h

/-! ## Rows -/

/-- The row and what was given for its key agree, also in whether they are active. -/
def RowOk (c : Cipher) (config : Option SystemConfig) (entry : Option Entry) : Prop :=
  Represents c config entry ∧ config.map (·.isActive) = entry.map (·.isActive)

theorem encryptValue_of_ne (nonce : ℕ) {value : Text} (h : value ≠ []) :
    encryptValue c nonce value = c.encrypt nonce value := by
  rw [encryptValue, if_neg (by simpa using h)]

/-- What is decrypted to a text, is a ciphertext of it. -/
theorem exists_eq_encryptValue {value text : Text} (htext : text ≠ []) :
    (∃ nonce, value = encryptValue c nonce text) ↔ c.decrypt value = some text := by
  rw [← Cipher.isToken_iff htext]
  exact exists_congr fun nonce => by rw [encryptValue_of_ne nonce htext]

@[simp] theorem encryptValue_nil (nonce : ℕ) : encryptValue c nonce [] = [] := rfl

theorem storesAs_false {value text : Text} : StoresAs c false value text ↔ value = text := Iff.rfl

theorem storesAs_true {value text : Text} :
    StoresAs c true value text ↔ ∃ nonce, value = encryptValue c nonce text := Iff.rfl

theorem storesAs_encrypt (isEncrypted : Bool) (nonce : ℕ) (text : Text) :
    StoresAs c isEncrypted (if isEncrypted then encryptValue c nonce text else text) text := by
  cases isEncrypted with
  | false => rfl
  | true => exact ⟨nonce, rfl⟩

/-- **What a row stores, it can be read as.** -/
theorem SystemConfig.Stores.plaintext_eq {config : SystemConfig} {entry : Entry} (h : config.Stores c entry) :
    config.plaintext c = some entry.text := by
  have hvalue := h.value
  unfold SystemConfig.plaintext
  cases hencrypted : config.isEncrypted with
  | false =>
    rw [hencrypted, storesAs_false] at hvalue
    rw [Bool.false_and, if_neg Bool.false_ne_true, hvalue]
  | true =>
    rw [hencrypted, storesAs_true] at hvalue
    rw [Bool.true_and]
    by_cases htext : entry.text = []
    · obtain ⟨nonce, hnonce⟩ := hvalue
      rw [htext, encryptValue_nil] at hnonce
      simp [hnonce, htext]
    · have hdecrypt := (exists_eq_encryptValue htext).mp hvalue
      have hne : config.value ≠ [] := List.ne_nil_of_length_pos (Nat.zero_lt_of_lt (c.length_lt hdecrypt))
      rw [if_pos (by simpa using hne), decryptValue_of_ne hne, hdecrypt]

/-- The text of an encrypted row with a value. -/
theorem SystemConfig.Stores.decrypt_eq {config : SystemConfig} {entry : Entry} (h : config.Stores c entry)
    (hencrypted : config.isEncrypted = true) (hne : config.value ≠ []) :
    entry.text ≠ [] ∧ c.decrypt config.value = some entry.text := by
  have hvalue := h.value
  rw [hencrypted, storesAs_true] at hvalue
  have htext : entry.text ≠ [] := by
    intro htext
    obtain ⟨nonce, hnonce⟩ := hvalue
    rw [htext, encryptValue_nil] at hnonce
    exact hne hnonce
  exact ⟨htext, (exists_eq_encryptValue htext).mp hvalue⟩

/-- **A row that agrees with what was given is read as it.** -/
theorem RowOk.reads {s : State} {key : Text} {entry : Option Entry} (h : RowOk c (s.table key) entry)
    (hshown : s.shown key = none) : getConfig c s key = owed entry := by
  obtain ⟨⟨hsome, hstores⟩, hactive⟩ := h
  rw [getConfig, State.view_of_shown hshown]
  cases htable : s.table key with
  | none =>
    rw [htable, Option.isSome_none, eq_comm, Option.isSome_eq_false_iff, Option.isNone_iff_eq_none] at hsome
    rw [hsome]
    rfl
  | some config =>
    rw [htable, Option.isSome_some, eq_comm, Option.isSome_iff_exists] at hsome
    obtain ⟨last, rfl⟩ := hsome
    rw [htable] at hactive hstores
    have hlast : config.isActive = last.isActive := Option.some.inj hactive
    have hstored := hstores config rfl last rfl
    simp only [hlast, hstored.plaintext_eq, hstored.valueType, owed, Option.elim_some, Entry.answer]

/-- **What is read tells whether the row is active.** -/
theorem rowOk_of_reads {s : State} {key : Text} {entry : Option Entry} (h : Represents c (s.table key) entry)
    (hreads : getConfig c s.newSession key = owed entry) : RowOk c (s.table key) entry := by
  refine ⟨h, ?_⟩
  obtain ⟨hsome, hstores⟩ := h
  have hview : s.newSession.view key = s.table key := State.view_of_shown rfl
  rw [getConfig, hview] at hreads
  cases htable : s.table key with
  | none =>
    rw [htable, Option.isSome_none, eq_comm, Option.isSome_eq_false_iff, Option.isNone_iff_eq_none] at hsome
    rw [hsome]
    rfl
  | some config =>
    rw [htable, Option.isSome_some, eq_comm, Option.isSome_iff_exists] at hsome
    obtain ⟨last, rfl⟩ := hsome
    rw [htable] at hreads hstores
    have hstored := hstores config rfl last rfl
    simp only [hstored.plaintext_eq, owed, Option.elim_some, Entry.answer] at hreads
    cases hactive : config.isActive <;> cases hlast : last.isActive <;> simp_all

/-- **What is readable, row by row.** -/
theorem readable_iff {s : State} : Readable c s ↔
    (∀ key, RowOk c (s.table key) (s.entries key)) ∧
      ∀ key answer, s.answer = some (key, answer) → answer = owed (s.entries key) := by
  constructor
  · intro h
    exact ⟨fun key => rowOk_of_reads (h.stored key) (h.reads key), h.answered⟩
  · rintro ⟨hrows, hanswered⟩
    refine ⟨fun key => ?_, fun key => (hrows key).1, hanswered⟩
    have hrow : RowOk c (s.newSession.table key) (s.entries key) := hrows key
    exact hrow.reads rfl

/-! ## Commits -/

/-- An overwritten attribute, against the row and what was given. -/
theorem RowOk.of_shown {s : State} {key shown : Text} {entry : Option Entry} (h : RowOk c (s.table key) entry)
    (hs : ShownOk c s) (hshown : s.shown key = some shown) :
    ∃ config last, s.table key = some config ∧ entry = some last ∧ config.Stores c last ∧
      config.isEncrypted = true ∧ last.text ≠ [] ∧ c.decrypt config.value = some last.text ∧
      shown.length ≤ last.text.length := by
  obtain ⟨config, htable, hencrypted, hne, text, hdecrypt, hle⟩ := hs key shown hshown
  rw [Option.mem_def] at htable
  rw [htable] at h
  obtain ⟨⟨hsome, hstores⟩, -⟩ := h
  rw [Option.isSome_some, eq_comm, Option.isSome_iff_exists] at hsome
  obtain ⟨last, rfl⟩ := hsome
  have hstored := hstores config rfl last rfl
  obtain ⟨htext, hlast⟩ := hstored.decrypt_eq hencrypted hne
  obtain rfl : text = last.text := Option.some.inj (hdecrypt.symm.trans hlast)
  exact ⟨config, last, htable, rfl, hstored, hencrypted, htext, hlast, hle⟩

/-- A text that is not longer than what was given is no ciphertext of it. -/
theorem not_stores_of_length_le {config : SystemConfig} {entry : Entry} (hencrypted : config.isEncrypted = true)
    (htext : entry.text ≠ []) (hle : config.value.length ≤ entry.text.length) : ¬ config.Stores c entry := by
  intro h
  have hvalue := h.value
  rw [hencrypted, storesAs_true, exists_eq_encryptValue htext] at hvalue
  have hlt := c.length_lt hvalue
  omega

/-- **A commit spoils just the rows whose attribute is overwritten.** -/
theorem rowOk_view_iff {s : State} {key : Text} {entry : Option Entry} (h : RowOk c (s.table key) entry)
    (hs : ShownOk c s) : RowOk c (s.view key) entry ↔ s.shown key = none := by
  constructor
  · intro hview
    by_contra hne
    obtain ⟨shown, hshown⟩ := Option.ne_none_iff_exists'.mp hne
    obtain ⟨config, last, htable, rfl, -, hencrypted, htext, -, hle⟩ := h.of_shown hs hshown
    have hoverwritten : s.view key = some (config.overwrite (some shown)) := by
      rw [State.view, htable, hshown, Option.map_some]
    have hstores := hview.1.2 _ hoverwritten last rfl
    exact @not_stores_of_length_le c (config.overwrite (some shown)) last hencrypted htext hle hstores
  · intro hshown
    rwa [State.view_of_shown hshown]

/-- **A row is saved**: the others stay as they are if no other attribute is overwritten. -/
theorem rows_save_iff {s : State} {key : Text} {config : SystemConfig} {entries : Text → Option Entry}
    (h : ∀ k, RowOk c (s.table k) (s.entries k)) (hs : ShownOk c s)
    (hentries : ∀ k, k ≠ key → entries k = s.entries k) :
    (∀ k, RowOk c ((s.save key config).table k) (entries k)) ↔
      s.ShowsOnly key ∧ RowOk c (some config) (entries key) := by
  change (∀ k, RowOk c (Function.update s.view key (some config) k) (entries k)) ↔ _
  constructor
  · intro hall
    constructor
    · intro k hk
      have hrow := hall k
      rw [Function.update_of_ne hk, hentries k hk] at hrow
      exact (rowOk_view_iff (h k) hs).mp hrow
    · have hrow := hall key
      rwa [Function.update_self] at hrow
  · rintro ⟨honly, hrow⟩ k
    by_cases hk : k = key
    · rw [hk, Function.update_self]
      exact hrow
    · rw [Function.update_of_ne hk, hentries k hk]
      exact (rowOk_view_iff (h k) hs).mpr (honly k hk)

/-- A row against what was given. -/
theorem rowOk_some_iff {config : SystemConfig} {entry : Entry} :
    RowOk c (some config) (some entry) ↔ config.Stores c entry ∧ config.isActive = entry.isActive := by
  constructor
  · rintro ⟨⟨-, hstores⟩, hactive⟩
    exact ⟨hstores config rfl entry rfl, Option.some.inj hactive⟩
  · rintro ⟨hstores, hactive⟩
    refine ⟨⟨rfl, ?_⟩, congrArg some hactive⟩
    rintro _ ⟨⟩ _ ⟨⟩
    exact hstores

/-- There is a row just for the keys that were given. -/
theorem RowOk.cases {config : Option SystemConfig} {entry : Option Entry} (h : RowOk c config entry) :
    config = none ∧ entry = none ∨
      ∃ row last, config = some row ∧ entry = some last ∧ row.Stores c last ∧ row.isActive = last.isActive := by
  cases config with
  | none =>
    left
    exact ⟨rfl, Option.map_eq_none_iff.mp h.2.symm⟩
  | some row =>
    right
    obtain ⟨last, hlast, -⟩ := Option.map_eq_some_iff.mp h.2.symm
    rw [hlast] at h
    obtain ⟨hstores, hactive⟩ := rowOk_some_iff.mp h
    exact ⟨row, last, rfl, hlast, hstores, hactive⟩

/-! ## The step of each writer -/

/-- **`set_config`** keeps the table readable if the key can be set. -/
theorem rows_setConfig_iff {s : State} {nonce : ℕ} {key value valueType : Text} {category : Option Text}
    {isEncrypted : Bool} {entries : Text → Option Entry} (h : ∀ k, RowOk c (s.table k) (s.entries k))
    (hs : ShownOk c s) (hentries : ∀ k, k ≠ key → entries k = s.entries k)
    (hkey : entries key = some { text := value, valueType, isActive := true }) :
    (∀ k, RowOk c ((setConfig c nonce key value valueType category isEncrypted s).table k) (entries k)) ↔
      Settable s key := by
  have hstored (hflag : Bool) : (if hflag && ! value.isEmpty then encryptValue c nonce value else value) =
      if hflag then encryptValue c nonce value else value := by
    cases value with
    | nil => simp
    | cons => simp
  unfold setConfig
  rw [State.reveal_table, rows_save_iff h hs hentries, hkey, Settable, hstored]
  refine and_congr_right fun _ => ?_
  cases htable : s.table key with
  | none =>
    rw [State.view_eq_none.mpr htable, rowOk_some_iff]
    exact iff_of_true ⟨⟨storesAs_encrypt .., rfl⟩, rfl⟩ (by rintro _ ⟨⟩)
  | some config =>
    have hview : s.view key = some (config.overwrite (s.shown key)) := by rw [State.view, htable, Option.map_some]
    rw [hview, rowOk_some_iff]
    constructor
    · rintro ⟨-, hactive⟩ _ ⟨⟩
      exact hactive
    · intro hactive
      exact ⟨⟨storesAs_encrypt .., rfl⟩, hactive config rfl⟩

/-- **`delete_config`** keeps the table readable if no attribute is overwritten. -/
theorem rows_deleteConfig_iff {s : State} {key : Text} {entries : Text → Option Entry}
    (h : ∀ k, RowOk c (s.table k) (s.entries k)) (hs : ShownOk c s)
    (hentries : ∀ k, k ≠ key → entries k = s.entries k)
    (hkey : entries key = (s.entries key).map ({ · with isActive := false })) :
    (∀ k, RowOk c ((deleteConfig key s).table k) (entries k)) ↔
      (s.table key ≠ none → ∀ k, s.shown k = none) := by
  unfold deleteConfig
  obtain ⟨htable, hentry⟩ | ⟨row, last, htable, hentry, hstores, hactive⟩ := (h key).cases
  · rw [State.view_eq_none.mpr htable]
    refine iff_of_true (fun k => ?_) (fun hne => absurd htable hne)
    by_cases hk : k = key
    · have hrow := h key
      rw [hk, hkey, hentry]
      rwa [hentry] at hrow
    · rw [hentries k hk]
      exact h k
  · have hview : s.view key = some (row.overwrite (s.shown key)) := by rw [State.view, htable, Option.map_some]
    have hdeleted : RowOk c (some { row.overwrite (s.shown key) with isActive := false }) (entries key) ↔
        s.shown key = none := by
      have hrow := rowOk_view_iff (h key) hs
      rw [hview, hentry, rowOk_some_iff] at hrow
      rw [← hrow, hkey, hentry, Option.map_some, rowOk_some_iff]
      constructor
      · rintro ⟨hstored, -⟩
        exact ⟨⟨hstored.value, hstored.valueType⟩, hactive⟩
      · rintro ⟨hstored, -⟩
        exact ⟨⟨hstored.value, hstored.valueType⟩, rfl⟩
    rw [hview]
    dsimp only
    rw [rows_save_iff h hs hentries, hdeleted]
    constructor
    · rintro ⟨honly, hshown⟩ - k
      by_cases hk : k = key
      · rw [hk, hshown]
      · exact honly k hk
    · intro hnone
      have hall := hnone (by rw [htable]; exact Option.some_ne_none _)
      exact ⟨fun k _ => hall k, hall key⟩

/-- A text that is stored under one flag is stored under the other just if it is empty. -/
theorem storesAs_flip_iff {isEncrypted flag : Bool} {value text : Text} (h : StoresAs c isEncrypted value text) :
    StoresAs c flag value text ↔ value = [] ∨ flag = isEncrypted := by
  by_cases htext : text = []
  · have hnil (b : Bool) : StoresAs c b value text ↔ value = [] := by
      subst htext
      cases b with
      | false => exact Iff.rfl
      | true => exact (exists_congr fun nonce => by rw [encryptValue_nil]).trans (exists_const ℕ)
    rw [hnil] at h ⊢
    simp [h]
  · have htoken : StoresAs c true value text ↔ c.decrypt value = some text := exists_eq_encryptValue htext
    have hnot : c.decrypt value = some text → value ≠ text := by
      rintro hdecrypt rfl
      exact absurd (c.length_lt hdecrypt) (lt_irrefl _)
    have hne : value ≠ [] := by
      rintro rfl
      cases isEncrypted with
      | false => exact htext h.symm
      | true => exact absurd (c.length_lt (htoken.mp h)) (Nat.not_lt_zero _)
    rw [or_iff_right hne]
    cases isEncrypted with
    | false =>
      cases flag with
      | false => exact iff_of_true h rfl
      | true => exact iff_of_false (fun htrue => hnot (htoken.mp htrue) h) (Ne.symm Bool.false_ne_true)
    | true =>
      cases flag with
      | false => exact iff_of_false (hnot (htoken.mp h)) Bool.false_ne_true
      | true => exact iff_of_true h rfl

/-- **An update keeps what was given** if it gives a value, or keeps the value readable. -/
theorem stores_change_iff {row : SystemConfig} {last : Entry} {shown : Option Text} {nonce : ℕ}
    {data : SystemConfigUpdate} (hstores : row.Stores c last)
    (hshown : ∀ v ∈ shown, row.isEncrypted = true ∧ last.text ≠ [] ∧ c.decrypt row.value = some last.text ∧
      v.length ≤ last.text.length) :
    ((row.overwrite shown).change c nonce data).Stores c
        { text := data.given.getD last.text
          valueType := data.valueType.getD last.valueType
          isActive := data.isActive.getD last.isActive } ↔
      (data.given = none → row.KeepsValue c data shown) := by
  have htype : data.valueType.getD row.valueType = data.valueType.getD last.valueType := by rw [hstores.valueType]
  cases hgiven : data.given with
  | some value =>
    refine iff_of_true ⟨?_, htype⟩ (fun h => by cases h)
    have hvalue := storesAs_encrypt (c := c) (data.isEncrypted.getD row.isEncrypted) nonce value
    rwa [SystemConfig.change, hgiven]
  | none =>
    have hold : ((row.overwrite shown).change c nonce data).Stores c
        { text := last.text, valueType := data.valueType.getD last.valueType,
          isActive := data.isActive.getD last.isActive } ↔
        StoresAs c (data.isEncrypted.getD row.isEncrypted) (shown.getD row.value) last.text := by
      constructor
      · intro h
        have hvalue := h.value
        rwa [SystemConfig.change, hgiven] at hvalue
      · intro h
        refine ⟨?_, htype⟩
        rwa [SystemConfig.change, hgiven]
    rw [Option.getD_none, hold, forall_prop_of_true rfl]
    cases shown with
    | none => exact storesAs_flip_iff hstores.value
    | some v =>
      obtain ⟨hencrypted, htext, hdecrypt, hle⟩ := hshown v rfl
      rw [Option.getD_some, SystemConfig.KeepsValue, hdecrypt, Option.some_inj, hencrypted]
      have htoken : ¬ StoresAs c true v last.text := by
        intro htoken
        rw [storesAs_true, exists_eq_encryptValue htext] at htoken
        have hlt := c.length_lt htoken
        omega
      have hplain : StoresAs c false v last.text ↔ last.text = v := eq_comm
      obtain hflag | hflag | hflag : data.isEncrypted = none ∨ data.isEncrypted = some true ∨
          data.isEncrypted = some false := by
        cases data.isEncrypted with
        | none => exact .inl rfl
        | some flag => cases flag with
          | false => exact .inr (.inr rfl)
          | true => exact .inr (.inl rfl)
      · simp [hflag, htoken]
      · simp [hflag, htoken]
      · simp [hflag, hplain]

/-- **`update_config`** keeps the table readable if it keeps the value readable and no other attribute is
overwritten. -/
theorem rows_updateConfig_iff {s : State} {nonce : ℕ} {key : Text} {data : SystemConfigUpdate} {refreshes : Bool}
    {entries : Text → Option Entry} (h : ∀ k, RowOk c (s.table k) (s.entries k)) (hs : ShownOk c s)
    (hadmitted : data.admitted checks key = true) (hentries : ∀ k, k ≠ key → entries k = s.entries k)
    (hkey : entries key = (s.entries key).map fun entry =>
      { text := data.given.getD entry.text
        valueType := data.valueType.getD entry.valueType
        isActive := data.isActive.getD entry.isActive }) :
    (∀ k, RowOk c ((updateConfig c checks nonce key data refreshes s).table k) (entries k)) ↔
      ∀ config ∈ s.table key,
        s.ShowsOnly key ∧ (data.given = none → config.KeepsValue c data (s.shown key)) := by
  unfold updateConfig
  obtain ⟨htable, hentry⟩ | ⟨row, last, htable, hentry, hstores, hactive⟩ := (h key).cases
  · rw [State.view_eq_none.mpr htable, htable]
    refine iff_of_true (fun k => ?_) (by rintro _ ⟨⟩)
    by_cases hk : k = key
    · have hrow := h key
      rw [hk, hkey, hentry]
      rwa [hentry] at hrow
    · rw [hentries k hk]
      exact h k
  · have hview : s.view key = some (row.overwrite (s.shown key)) := by rw [State.view, htable, Option.map_some]
    have hshown : ∀ v ∈ s.shown key, row.isEncrypted = true ∧ last.text ≠ [] ∧
        c.decrypt row.value = some last.text ∧ v.length ≤ last.text.length := by
      intro v hv
      obtain ⟨config, last', htable', hentry', -, hencrypted, htext, hdecrypt, hle⟩ := (h key).of_shown hs hv
      obtain rfl : row = config := Option.some.inj (htable.symm.trans htable')
      obtain rfl : last = last' := Option.some.inj (hentry.symm.trans hentry')
      exact ⟨hencrypted, htext, hdecrypt, hle⟩
    have hrefresh (saved : State) : (if refreshes then saved.reveal c key else saved).table = saved.table := by
      split
      · exact State.reveal_table saved key
      · rfl
    rw [hview]
    dsimp only
    rw [if_pos hadmitted, hrefresh, rows_save_iff h hs hentries, hkey, hentry, Option.map_some, rowOk_some_iff,
      stores_change_iff hstores hshown, htable]
    have hkept : ((row.overwrite (s.shown key)).change c nonce data).isActive =
        data.isActive.getD last.isActive := congrArg data.isActive.getD hactive
    rw [and_iff_left hkept]
    constructor
    · rintro hcareful _ ⟨⟩
      exact hcareful
    · intro hcareful
      exact hcareful row rfl

/-- The plaintext of an overwritten attribute is not what was given. -/
theorem plaintext_ne_of_shown {config : SystemConfig} {last : Entry} (hencrypted : config.isEncrypted = true)
    (htext : last.text ≠ []) (hle : config.value.length ≤ last.text.length) :
    config.plaintext c ≠ some last.text := by
  unfold SystemConfig.plaintext
  rw [hencrypted, Bool.true_and]
  by_cases hvalue : config.value = []
  · rw [hvalue]
    exact fun h => htext (Option.some.inj h).symm
  · rw [if_pos (by simpa using hvalue), decryptValue_of_ne hvalue]
    intro hdecrypt
    have hlt := c.length_lt hdecrypt
    omega

/-- **`get_config` in the open session** reads what was given, unless it meets an overwritten attribute. -/
theorem getConfig_iff {s : State} {key : Text} {entry : Option Entry} (h : RowOk c (s.table key) entry)
    (hs : ShownOk c s) :
    getConfig c s key = owed entry ↔ ∀ config ∈ s.table key, config.isActive = true → s.shown key = none := by
  cases hshown : s.shown key with
  | none => exact iff_of_true (h.reads hshown) (fun _ _ _ => rfl)
  | some v =>
    obtain ⟨config, last, htable, rfl, hstores, hencrypted, htext, -, hle⟩ := h.of_shown hs hshown
    have hplaintext := @plaintext_ne_of_shown c (config.overwrite (some v)) last hencrypted htext hle
    have hview : s.view key = some (config.overwrite (some v)) := by rw [State.view, htable, hshown, Option.map_some]
    rw [htable, rowOk_some_iff] at h
    have hlast : config.isActive = last.isActive := h.2
    rw [getConfig, hview, htable, owed, Option.elim_some, Entry.answer, ← hlast]
    dsimp only
    cases hactive : config.isActive with
    | false =>
      have hinactive : (config.overwrite (some v)).isActive = false := hactive
      rw [hinactive, if_neg Bool.false_ne_true, if_neg Bool.false_ne_true]
      refine iff_of_true rfl ?_
      rintro _ ⟨⟩ h
      exact absurd (hactive.symm.trans h) Bool.false_ne_true
    | true =>
      have hactive' : (config.overwrite (some v)).isActive = true := hactive
      rw [hactive', if_pos rfl, if_pos rfl]
      refine iff_of_false ?_ (fun h => by cases h config rfl hactive)
      cases htext' : (config.overwrite (some v)).plaintext c with
      | none => exact fun h => by cases h
      | some text =>
        intro h
        rw [htext'] at hplaintext
        injection h with heq
        exact hplaintext (congrArg some heq)

/-! ## Steps of the map -/

/-- After an operation that reads no key, the rows tell whether the table is readable. -/
theorem readable_quiet_iff {s t : State} {a : Operation} (hquiet : a.answer c s = none)
    (hstep : step c checks s a = some t) :
    Readable c t ↔ ∀ key, RowOk c ((a.apply c checks s).table key) (a.give checks key (s.entries key)) := by
  obtain rfl := Option.some.inj hstep
  rw [readable_iff]
  refine and_iff_left fun key answer hanswer => ?_
  rw [hquiet] at hanswer
  cases hanswer

/-- **One operation**: `get_config` goes on reading what was given just under the condition. -/
theorem readable_step_iff {s t : State} {a : Operation} (h : Readable c s) (hs : ShownOk c s)
    (hstep : step c checks s a = some t) : Readable c t ↔ Careful c checks s a := by
  obtain ⟨hrows, -⟩ := readable_iff.mp h
  cases a with
  | newSession =>
    rw [readable_quiet_iff rfl hstep]
    exact iff_of_true hrows trivial
  | set nonce key value valueType category isEncrypted =>
    rw [readable_quiet_iff rfl hstep]
    exact rows_setConfig_iff hrows hs (fun k hk => if_neg (Ne.symm hk)) (if_pos rfl)
  | create nonce key value valueType category isEncrypted =>
    rw [readable_quiet_iff rfl hstep, Operation.apply, Careful]
    by_cases hadmits : admitsCreate checks key value valueType = true
    · rw [if_pos hadmits, forall_prop_of_true hadmits]
      exact rows_setConfig_iff hrows hs (fun k hk => if_neg fun hgiven => hk hgiven.1.symm) (if_pos ⟨rfl, hadmits⟩)
    · rw [if_neg hadmits]
      refine iff_of_true (fun k => ?_) (fun hadmitted => absurd hadmitted hadmits)
      rw [Operation.give, if_neg fun hgiven => hadmits hgiven.2]
      exact hrows k
  | update nonce key data refreshes =>
    rw [readable_quiet_iff rfl hstep, Operation.apply, Careful]
    by_cases hadmitted : data.admitted checks key = true
    · rw [forall_prop_of_true hadmitted]
      exact rows_updateConfig_iff hrows hs hadmitted (fun k hk => if_neg fun hgiven => hk hgiven.1.symm)
        (if_pos ⟨rfl, hadmitted⟩)
    · refine iff_of_true (fun k => ?_) (fun hadmits => absurd hadmits hadmitted)
      rw [Operation.give, if_neg fun hgiven => hadmitted hgiven.2]
      have htable : (updateConfig c checks nonce key data refreshes s).table = s.table := by
        unfold updateConfig
        split
        · rfl
        · rw [if_neg hadmitted]
      rw [htable]
      exact hrows k
  | delete key =>
    rw [readable_quiet_iff rfl hstep]
    exact rows_deleteConfig_iff hrows hs (fun k hk => if_neg (Ne.symm hk)) (if_pos rfl)
  | getAll category order =>
    rw [readable_quiet_iff rfl hstep, Operation.apply, revealAll_table]
    exact iff_of_true hrows trivial
  | get key =>
    have hread := getConfig_iff (hrows key) hs
    obtain rfl := Option.some.inj hstep
    rw [readable_iff]
    constructor
    · rintro ⟨-, hanswered⟩
      exact hread.mp (hanswered key _ rfl)
    · intro hcareful
      refine ⟨hrows, ?_⟩
      rintro _ _ ⟨⟩
      exact hread.mpr hcareful

/-- Everything that was given is active. -/
def State.AllActive (s : State) : Prop := ∀ key, ∀ entry ∈ s.entries key, entry.isActive = true

/-- **`get_system_config` agrees** just while everything is active. -/
theorem faithful_iff {s : State} : Faithful c s ↔ Readable c s ∧ s.AllActive := by
  have hagrees (h : Readable c s) (key : Text) : getSystemConfig c s key =
      some (((s.entries key).filter Entry.isActive).map Entry.text) ↔
        ∀ entry ∈ s.entries key, entry.isActive = true := by
    obtain ⟨htable, hentry⟩ | ⟨row, last, htable, hentry, hstores, -⟩ := ((readable_iff.mp h).1 key).cases
    · rw [getSystemConfig, htable, hentry]
      exact iff_of_true rfl (by rintro _ ⟨⟩)
    · rw [getSystemConfig, htable, hentry]
      dsimp only
      simp only [hstores.plaintext_eq, Option.mem_some_iff, forall_eq']
      cases hactive : last.isActive with
      | true => exact iff_of_true (by rw [Option.filter_some_pos hactive, Option.map_some, Option.map_some]) rfl
      | false =>
        rw [Option.filter_some_neg hactive]
        exact iff_of_false (fun hread => by cases hread) Bool.false_ne_true
  constructor
  · intro h
    exact ⟨h.readable, fun key => (hagrees h.readable key).mp (h.agrees key)⟩
  · rintro ⟨hreadable, hactive⟩
    exact ⟨hreadable, fun key => (hagrees hreadable key).mpr (hactive key)⟩

/-- What an operation gives for its key, when everything else stays as it was. -/
theorem allActive_of_key {s t : State} (key : Text) (h : s.AllActive)
    (hentries : ∀ k, k ≠ key → t.entries k = s.entries k) :
    t.AllActive ↔ ∀ entry ∈ t.entries key, entry.isActive = true := by
  constructor
  · intro hall
    exact hall key
  · intro hkey k
    by_cases hk : k = key
    · rw [hk]
      exact hkey
    · rw [hentries k hk]
      exact h k

/-- **One operation** keeps everything active just under the condition. -/
theorem allActive_step_iff {s t : State} {a : Operation} (h : s.AllActive) (hreadable : Readable c s)
    (hstep : step c checks s a = some t) : t.AllActive ↔ KeepsActive checks s a := by
  obtain ⟨hrows, -⟩ := readable_iff.mp hreadable
  obtain rfl := Option.some.inj hstep
  cases a with
  | newSession | getAll category order | get key => exact iff_of_true h trivial
  | set nonce key value valueType category isEncrypted =>
    refine iff_of_true ((allActive_of_key key h fun k hk => if_neg (Ne.symm hk)).mpr ?_) trivial
    rintro entry hentry
    change (if key = key then some _ else s.entries key) = some entry at hentry
    rw [if_pos rfl] at hentry
    rw [← Option.some.inj hentry]
  | create nonce key value valueType category isEncrypted =>
    refine iff_of_true ((allActive_of_key key h fun k hk =>
      if_neg fun hgiven => hk hgiven.1.symm).mpr ?_) trivial
    intro entry hentry
    change (if key = key ∧ _ then some _ else s.entries key) = some entry at hentry
    split at hentry
    · rw [← Option.some.inj hentry]
    · exact h key entry hentry
  | update nonce key data refreshes =>
    rw [allActive_of_key key h fun k hk => if_neg fun hgiven => hk hgiven.1.symm, KeepsActive]
    change (∀ entry ∈ Operation.give checks key (s.entries key) (.update nonce key data refreshes), _) ↔ _
    rw [Operation.give]
    by_cases hadmitted : data.admitted checks key = true
    · rw [if_pos ⟨rfl, hadmitted⟩, forall_prop_of_true hadmitted]
      obtain ⟨htable, hentry⟩ | ⟨row, last, htable, hentry, -, -⟩ := (hrows key).cases
      · rw [htable, hentry]
        exact iff_of_true (by rintro _ ⟨⟩) (fun hne => absurd rfl hne)
      · rw [htable, hentry, Option.map_some, forall_prop_of_true (Option.some_ne_none _)]
        simp only [Option.mem_some_iff, forall_eq', h key last hentry]
        cases hdata : data.isActive with
        | none => simp
        | some flag => cases flag <;> simp
    · rw [if_neg fun hgiven => hadmitted hgiven.2]
      exact iff_of_true (h key) (fun hadmits => absurd hadmits hadmitted)
  | delete key =>
    rw [allActive_of_key key h fun k hk => if_neg (Ne.symm hk), KeepsActive]
    change (∀ entry ∈ Operation.give checks key (s.entries key) (.delete key), _) ↔ _
    rw [Operation.give, if_pos rfl]
    obtain ⟨htable, hentry⟩ | ⟨row, last, htable, hentry, -, -⟩ := (hrows key).cases
    · rw [htable, hentry]
      exact iff_of_true (by rintro _ ⟨⟩) rfl
    · rw [htable, hentry, Option.map_some]
      exact iff_of_false (fun hactive => absurd (hactive _ rfl) Bool.false_ne_true) (Option.some_ne_none _)

/-! ## Runs -/

theorem readable_empty : Readable c State.empty :=
  ⟨fun _ => rfl, fun _ => ⟨rfl, by rintro _ ⟨⟩⟩, by rintro _ _ ⟨⟩⟩

theorem shownOk_empty : ShownOk c State.empty := shownOk_of_shown rfl

/-- **The runs that keep the map faithful**: `get_config` reads what was given, and the table stores it, just
along the runs of careful operations; and `get_system_config` reads the same as long as, moreover, nothing is
deactivated. -/
theorem faithful_run_iff {as : List Operation} {t : State} :
    (Run (step c checks) (fun s a => Possible s a ∧ ∃ t ∈ step c checks s a, Readable c t) .empty as t ↔
      Run (step c checks) (fun s a => Possible s a ∧ Careful c checks s a) .empty as t) ∧
    (Run (step c checks) (fun s a => Possible s a ∧ ∃ t ∈ step c checks s a, Faithful c t) .empty as t ↔
      Run (step c checks) (fun s a => Possible s a ∧ Careful c checks s a ∧ KeepsActive checks s a)
        .empty as t) := by
  constructor
  · refine Run.leadsTo_iff_of_possible (I := fun s => Readable c s ∧ ShownOk c s) ?_ ?_
      ⟨readable_empty, shownOk_empty⟩
    · rintro s a t ⟨hreadable, hshown⟩ - hstep
      exact readable_step_iff hreadable hshown hstep
    · rintro s a t ⟨-, hshown⟩ - hstep hgood
      exact ⟨hgood, shownOk_step hshown hstep⟩
  · refine Run.leadsTo_iff_of_possible (I := fun s => (Readable c s ∧ s.AllActive) ∧ ShownOk c s) ?_ ?_
      ⟨⟨readable_empty, by rintro _ _ ⟨⟩⟩, shownOk_empty⟩
    · rintro s a t ⟨⟨hreadable, hactive⟩, hshown⟩ - hstep
      rw [faithful_iff, readable_step_iff hreadable hshown hstep, allActive_step_iff hactive hreadable hstep]
    · rintro s a t ⟨-, hshown⟩ - hstep hgood
      exact ⟨faithful_iff.mp hgood, shownOk_step hshown hstep⟩

/-- A key is set, deleted and set again. -/
def setAgain : List Operation :=
  [.set 0 "smtp_host".toList "mail".toList "string".toList none false, .delete "smtp_host".toList,
    .set 0 "smtp_host".toList "mail2".toList "string".toList none false]

/-- **A deleted key that is set again stays unreadable**, although `get_system_config` reads it. -/
theorem setAgain_not_faithful : ¬ ∀ as t,
    Run (step markingCipher sampleChecks) Possible .empty as t → Faithful markingCipher t := by
  intro hall
  have h := (hall setAgain _ (.cons trivial rfl (.cons trivial rfl (.cons trivial rfl (.nil _))))).readable
  have hread := h.reads "smtp_host".toList
  cases hread

end DBClaw.Config
