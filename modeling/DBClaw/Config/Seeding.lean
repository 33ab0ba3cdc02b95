import DBClaw.Config.Store

/-! # The seeding of the configuration at start-up
The lifespan of the application writes default configurations, each in a block of its own. Most blocks look
whether the key has a row; five of them whether `get_config` returns something true. -/

namespace DBClaw.Config

open Runs

/-! ## The blocks -/

/-- A default of the lifespan, and which test its block makes. -/
structure Block where
  key : Text
  value : Text
  valueType : Text
  category : Text
  isEncrypted : Bool
  byValue : Bool

/-- A block that tests `if not await get_config(db, key)`. -/
def byValue (key value valueType category : String) : Block :=
  ⟨key.toList, value.toList, valueType.toList, category.toList, false, true⟩

/-- A block that tests for a row of the key. -/
def byRow (key value valueType category : String) (isEncrypted : Bool := false) : Block :=
  ⟨key.toList, value.toList, valueType.toList, category.toList, isEncrypted, false⟩

/-- **The settings** that the blocks use: `settings.inspection_dedup_window_minutes`, and `settings.metric_interval`
or its default. -/
structure Settings where
  inspectionDedupWindowMinutes : ℤ
  metricInterval : ℤ

/-- `smtp_defaults`. -/
def smtpDefaults : List Block := [
  byRow "smtp_host" "" "string" "notification",
  byRow "smtp_port" "587" "integer" "notification",
  byRow "smtp_username" "" "string" "notification",
  byRow "smtp_password" "" "string" "notification",
  byRow "smtp_from_email" "" "string" "notification",
  byRow "smtp_use_tls" "true" "boolean" "notification"]

/-- `aliyun_defaults`, `huaweicloud_defaults`, `tencentcloud_defaults` and `dingtalk_bot_defaults`. -/
def integrationDefaults : List Block := [
  byRow "aliyun_access_key_id" "" "string" "integration",
  byRow "aliyun_access_key_secret" "" "string" "integration",
  byRow "huaweicloud_access_key_id" "" "string" "integration",
  byRow "huaweicloud_access_key_secret" "" "string" "integration",
  byRow "huaweicloud_iam_username" "" "string" "integration",
  byRow "huaweicloud_iam_password" "" "string" "integration",
  byRow "huaweicloud_domain_name" "" "string" "integration",
  byRow "huaweicloud_project_name" "" "string" "integration",
  byRow "tencentcloud_secret_id" "" "string" "integration" true,
  byRow "tencentcloud_secret_key" "" "string" "integration" true,
  byRow "dingtalk_client_id" "" "string" "integration",
  byRow "dingtalk_client_secret" "" "string" "integration" true]

/-- The blocks with a test of their own each. -/
def singleDefaults (settings : Settings) : List Block := [
  byRow "network_probe_host" "127.0.0.1" "string" "monitoring",
  byRow "monitoring_collection_interval_seconds" (toString settings.metricInterval) "integer" "monitoring",
  byRow "dashboard_refresh_interval_seconds" "15" "integer" "dashboard",
  byRow "app_external_base_url" "" "string" "notification"]

/-- `ai_alert_defaults`. -/
def aiAlertDefaults : List Block := [
  byValue "default_alert_engine_mode" "threshold" "string" "alerting",
  byValue "ai_alert_timeout_seconds" "3" "integer" "alerting",
  byValue "ai_alert_confidence_threshold" "0.7" "float" "alerting",
  byValue "notification_cooldown_minutes" "60" "integer" "alerting"]

/-- **The blocks of the lifespan**, in their order. -/
def blocks (settings : Settings) : List Block :=
  byValue "inspection_dedup_window_minutes" (toString settings.inspectionDedupWindowMinutes) "integer" "inspection" ::
    (smtpDefaults ++ integrationDefaults ++ singleDefaults settings ++ aiAlertDefaults)

/-! ## The start -/

variable (c : Cipher) (cv : Conversions)

/-- The test of a block: the key has what it needs; `none` where `get_config` raises. -/
def Block.test (block : Block) (s : State) : Option Bool :=
  if block.byValue then ((getConfig c s block.key).value cv .null).map Json.truthy
  else some (s.view block.key).isSome

/-- What a block writes. -/
def Block.write (block : Block) (s : State) : State :=
  setConfig c 0 block.key block.value block.valueType (some block.category) block.isEncrypted s

/-- **The blocks one after the other**, in one session; the start fails where `get_config` raises. -/
def seed (s : State) : List Block → State
  | [] => s
  | block :: blocks =>
    match block.test c cv s with
    | none => s
    | some true => seed s blocks
    | some false => seed (block.write c s) blocks

/-- **A start** of the application on a table. -/
def start (settings : Settings) (s : State) : State := seed c cv s.newSession (blocks settings)

/-- Two rows agree in value, type, encryption and active flag. -/
structure SystemConfig.Same (config config' : SystemConfig) : Prop where
  value : config'.value = config.value
  valueType : config'.valueType = config.valueType
  isEncrypted : config'.isEncrypted = config.isEncrypted
  isActive : config'.isActive = config.isActive

/-- **A start preserves the configuration**: every row is as before, and a second start changes nothing. -/
structure Preserved (settings : Settings) (s : State) : Prop where
  unchanged : ∀ key, ∀ config ∈ s.table key, ∃ config' ∈ (start c cv settings s).table key, config.Same config'
  idempotent : (start c cv settings (start c cv settings s)).table = (start c cv settings s).table

/-! ## The condition -/

/-- The row of a key as `get_config` tests it: inactive, or with a value that is false. -/
def SystemConfig.truth (config : SystemConfig) : Option Bool :=
  if config.isActive then
    ((config.plaintext c).bind fun value => parseValue cv value config.valueType).map Json.truthy
  else some false

/-- The row is already what the block writes. -/
def SystemConfig.IsDefault (config : SystemConfig) (block : Block) : Prop :=
  config.value = block.value ∧ config.valueType = block.valueType ∧ config.isEncrypted = block.isEncrypted

/-- The start fails at the block: its key has an active row whose value cannot be decrypted or parsed. -/
def Block.Fails (block : Block) (s : State) : Prop :=
  block.byValue = true ∧ ∃ config ∈ s.table block.key, config.truth c cv = none

/-- **The condition on a table**: the row of a key that is tested by its value is active with a value that is
not false, or already the default, or the start fails before it. -/
def TrueOrDefault (settings : Settings) (s : State) : Prop :=
  ∀ before block after, blocks settings = before ++ block :: after → block.byValue = true →
    (∀ b ∈ before, ¬ b.Fails c cv s) →
      ∀ config ∈ s.table block.key, config.truth c cv ≠ some false ∨ config.IsDefault block

/-! ## One block -/

variable {c cv}

/-- A block writes nothing that would be shown. -/
def Block.IsPlain (block : Block) : Prop := (! block.isEncrypted || block.value.isEmpty) = true

/-- The test of a block, of the row of its key. -/
def Block.rowTest (c : Cipher) (cv : Conversions) (block : Block) (row : Option SystemConfig) : Option Bool :=
  if block.byValue then row.elim (some false) (SystemConfig.truth c cv) else some row.isSome

/-- The row that a block writes. -/
def Block.defaultRow (block : Block) (row : Option SystemConfig) : SystemConfig where
  value := block.value
  valueType := block.valueType
  category := some block.category
  isActive := row.elim true SystemConfig.isActive
  isEncrypted := block.isEncrypted

/-- What a block makes of the row of its key. -/
def Block.result (c : Cipher) (cv : Conversions) (block : Block) (row : Option SystemConfig) : Option SystemConfig :=
  if block.rowTest c cv row = some false then some (block.defaultRow row) else row

/-- A session in which nothing is shown. -/
def State.Clean (s : State) : Prop := s.shown = fun _ => none

theorem State.Clean.view_eq {s : State} (h : s.Clean) : s.view = s.table := by
  funext key
  unfold State.view
  rw [h]
  exact Option.map_id_apply

/-- **The test of a block** looks at the row of its key. -/
theorem Block.test_eq {s : State} (h : s.Clean) (block : Block) :
    block.test c cv s = block.rowTest c cv (s.table block.key) := by
  unfold Block.test Block.rowTest
  rw [h.view_eq]
  split
  · unfold getConfig
    rw [h.view_eq]
    cases s.table block.key with
    | none => rfl
    | some config =>
      rw [Option.elim_some, SystemConfig.truth]
      dsimp only
      cases config.isActive with
      | false => rfl
      | true =>
        cases config.plaintext c with
        | none => rfl
        | some value => rfl
  · rfl

/-- **What a block writes** is the row of its key. -/
theorem Block.write_eq {s : State} (h : s.Clean) {block : Block} (hplain : block.IsPlain) :
    block.write c s =
      { s with table := Function.update s.table block.key (some (block.defaultRow (s.table block.key))) } := by
  have hquiet : (block.isEncrypted && ! block.value.isEmpty) = false := by
    rw [Block.IsPlain] at hplain
    cases hencrypted : block.isEncrypted <;> simp_all
  have hwritten : block.write c s =
      (s.save block.key (block.defaultRow (s.table block.key))).reveal c block.key := by
    unfold Block.write setConfig
    rw [hquiet, h.view_eq]
    cases s.table block.key <;> rfl
  have hview : (s.save block.key (block.defaultRow (s.table block.key))).view block.key =
      some (block.defaultRow (s.table block.key)) := by
    rw [State.Clean.view_eq (by rfl)]
    exact Function.update_self ..
  rw [hwritten, State.reveal, hview]
  dsimp only
  rw [if_neg (by rw [Block.defaultRow, hquiet]; exact Bool.false_ne_true), State.save, h.view_eq, ← h]

/-- A block that has written its row leaves it. -/
theorem Block.result_result (block : Block) (row : Option SystemConfig) :
    block.result c cv (block.result c cv row) = block.result c cv row := by
  by_cases h : block.rowTest c cv row = some false
  · have hresult : block.result c cv row = some (block.defaultRow row) := if_pos h
    rw [hresult, Block.result]
    split <;> rfl
  · have hresult : block.result c cv row = row := if_neg h
    rw [hresult, hresult]

/-! ## All blocks -/

/-- The blocks that a start comes to and gets past. -/
def reached (c : Cipher) (cv : Conversions) (table : Text → Option SystemConfig) (blocks : List Block) : List Block :=
  blocks.takeWhile fun block => (block.rowTest c cv (table block.key)).isSome

/-- Only the rows of the keys count. -/
theorem reached_congr {table table' : Text → Option SystemConfig} {blocks : List Block}
    (h : ∀ block ∈ blocks, table' block.key = table block.key) :
    reached c cv table' blocks = reached c cv table blocks := by
  induction blocks with
  | nil => rfl
  | cons block blocks ih =>
    obtain ⟨hblock, hblocks⟩ := List.forall_mem_cons.mp h
    unfold reached at ih ⊢
    rw [List.takeWhile_cons, List.takeWhile_cons, hblock, ih hblocks]

/-- **What a start makes of the table**: of each block that it gets past, the row is what the block makes of it,
and the others are as before. -/
structure Seeded (c : Cipher) (cv : Conversions) (blocks : List Block) (s t : State) : Prop where
  clean : t.Clean
  result : ∀ block ∈ reached c cv s.table blocks, t.table block.key = block.result c cv (s.table block.key)
  other : ∀ key, (∀ block ∈ reached c cv s.table blocks, block.key ≠ key) → t.table key = s.table key

theorem seeded_seed {blocks : List Block} {s : State} (hclean : s.Clean) (hkeys : (blocks.map Block.key).Nodup)
    (hplain : ∀ block ∈ blocks, block.IsPlain) : Seeded c cv blocks s (seed c cv s blocks) := by
  induction blocks generalizing s with
  | nil => exact ⟨hclean, fun _ hmem => absurd hmem List.not_mem_nil, fun _ _ => rfl⟩
  | cons block blocks ih =>
    rw [List.map_cons, List.nodup_cons] at hkeys
    obtain ⟨hkey, hkeys⟩ := hkeys
    obtain ⟨hblock, hplain⟩ := List.forall_mem_cons.mp hplain
    have hne : ∀ b ∈ blocks, b.key ≠ block.key := fun b hb heq => hkey (heq ▸ List.mem_map_of_mem hb)
    rw [seed, Block.test_eq hclean]
    cases htest : block.rowTest c cv (s.table block.key) with
    | none =>
      -- the start fails here
      have hreached : reached c cv s.table (block :: blocks) = [] := by
        rw [reached, List.takeWhile_cons, htest, Option.isSome_none, if_neg Bool.false_ne_true]
      dsimp only
      refine ⟨hclean, ?_, fun _ _ => rfl⟩
      rw [hreached]
      exact List.forall_mem_nil _
    | some present =>
      have hreached : reached c cv s.table (block :: blocks) = block :: reached c cv s.table blocks := by
        rw [reached, List.takeWhile_cons, htest, Option.isSome_some, if_pos rfl, reached]
      have hsubset : ∀ b ∈ reached c cv s.table blocks, b ∈ blocks :=
        fun b hb => (List.takeWhile_sublist _).mem hb
      cases present with
      | true =>
        dsimp only
        have hseeded := ih (s := s) hclean hkeys hplain
        refine ⟨hseeded.clean, ?_, ?_⟩
        · rw [hreached, List.forall_mem_cons]
          refine ⟨?_, hseeded.result⟩
          rw [hseeded.other block.key fun b hb => hne b (hsubset b hb), Block.result, htest,
            if_neg (by simp)]
        · rw [hreached]
          exact fun key hother => hseeded.other key (List.forall_mem_cons.mp hother).2
      | false =>
        dsimp only
        rw [Block.write_eq hclean hblock]
        have hrest : ∀ b ∈ blocks, Function.update s.table block.key
            (some (block.defaultRow (s.table block.key))) b.key = s.table b.key :=
          fun b hb => Function.update_of_ne (hne b hb) _ _
        have hseeded := ih (s := { s with
          table := Function.update s.table block.key (some (block.defaultRow (s.table block.key))) })
          hclean hkeys hplain
        have hrest' : reached c cv (Function.update s.table block.key
            (some (block.defaultRow (s.table block.key)))) blocks = reached c cv s.table blocks := reached_congr hrest
        obtain ⟨hclean', hresult, hother⟩ := hseeded
        rw [hrest'] at hresult hother
        refine ⟨hclean', ?_, ?_⟩
        · rw [hreached, List.forall_mem_cons]
          constructor
          · rw [hother block.key fun b hb => hne b (hsubset b hb), Block.result, htest, if_pos rfl]
            exact Function.update_self ..
          · intro b hb
            rw [hresult b hb]
            exact congrArg _ (hrest b (hsubset b hb))
        · rw [hreached]
          intro key hnone
          obtain ⟨hnot, hnone⟩ := List.forall_mem_cons.mp hnone
          rw [hother key hnone]
          exact Function.update_of_ne (Ne.symm hnot) _ _

/-- A list up to the first item that fails one test, against another that it fails as well. -/
theorem takeWhile_subset_of_fails {α : Type*} {p q : α → Bool} {l : List α}
    (h : ∀ before a after, l = before ++ a :: after → (∀ b ∈ before, p b = true) → p a = false → q a = false) :
    l.takeWhile q ⊆ l.takeWhile p := by
  induction l with
  | nil => exact List.Subset.refl _
  | cons a l ih =>
    cases hp : p a with
    | false =>
      have hq := h [] a l rfl (List.forall_mem_nil _) hp
      rw [List.takeWhile_cons_of_neg (by rw [hq]; exact Bool.false_ne_true)]
      exact List.nil_subset _
    | true =>
      rw [List.takeWhile_cons_of_pos hp]
      have hrest := ih fun before b after hl hbefore hb => h (a :: before) b after (by rw [hl, List.cons_append])
        (List.forall_mem_cons.mpr ⟨hp, hbefore⟩) hb
      rw [List.takeWhile_cons]
      split
      · exact List.cons_subset_cons a hrest
      · exact List.nil_subset _

/-- The blocks before the one where the start fails are those that it gets past. -/
theorem reached_of_fails {table : Text → Option SystemConfig} {before after : List Block} {block : Block}
    (hbefore : ∀ b ∈ before, (b.rowTest c cv (table b.key)).isSome = true)
    (hfails : (block.rowTest c cv (table block.key)).isSome = false) :
    reached c cv table (before ++ block :: after) = before := by
  unfold reached
  rw [List.takeWhile_append_of_pos hbefore,
    List.takeWhile_cons_of_neg (by rw [hfails]; exact Bool.false_ne_true), List.append_nil]

/-- **A second start** finds every row as the first has left it. -/
theorem Seeded.again {blocks : List Block} {s t u : State} (hkeys : (blocks.map Block.key).Nodup)
    (h : Seeded c cv blocks s t) (h' : Seeded c cv blocks t u) : u.table = t.table := by
  have hsubset : reached c cv t.table blocks ⊆ reached c cv s.table blocks := by
    refine takeWhile_subset_of_fails fun before block after hl hbefore hfails => ?_
    have hsame : t.table block.key = s.table block.key := by
      refine h.other block.key fun b hb heq => ?_
      rw [hl, reached_of_fails hbefore hfails] at hb
      rw [hl, List.map_append, List.map_cons] at hkeys
      exact (List.nodup_append.mp hkeys).2.2 b.key (List.mem_map_of_mem hb) block.key List.mem_cons_self heq
    rw [hsame]
    exact hfails
  funext key
  by_cases hkey : ∃ block ∈ reached c cv t.table blocks, block.key = key
  · obtain ⟨block, hblock, rfl⟩ := hkey
    rw [h'.result block hblock, h.result block (hsubset hblock), Block.result_result]
  · exact h'.other key fun block hblock heq => hkey ⟨block, hblock, heq⟩

/-! ## The start -/

theorem blocks_keys_nodup (settings : Settings) : ((blocks settings).map Block.key).Nodup := by
  have hkeys : (blocks settings).map Block.key = (blocks ⟨0, 0⟩).map Block.key := rfl
  rw [hkeys]
  decide

theorem blocks_plain (settings : Settings) : ∀ block ∈ blocks settings, block.IsPlain := by
  have hplain : (blocks settings).all (fun block => ! block.isEncrypted || block.value.isEmpty) = true := rfl
  exact List.all_eq_true.mp hplain

theorem seeded_start (settings : Settings) (s : State) :
    Seeded c cv (blocks settings) s (start c cv settings s) := by
  obtain ⟨hclean, hresult, hother⟩ := @seeded_seed c cv (blocks settings) s.newSession rfl
    (blocks_keys_nodup settings) (blocks_plain settings)
  exact ⟨hclean, hresult, hother⟩

/-- A block that `get_config` does not fail at. -/
theorem Block.isSome_rowTest_iff {block : Block} {s : State} :
    (block.rowTest c cv (s.table block.key)).isSome = true ↔ ¬ block.Fails c cv s := by
  unfold Block.rowTest Block.Fails
  cases block.byValue with
  | false => simp
  | true =>
    cases s.table block.key with
    | none => simp
    | some config => simp [Option.isSome_iff_ne_none]

/-- **What a block makes of a row** that is there agrees with it just if the block leaves it, or writes the
same. -/
theorem Block.same_result_iff {block : Block} {config : SystemConfig} :
    (∃ config' ∈ block.result c cv (some config), config.Same config') ↔
      (block.byValue = true → config.truth c cv ≠ some false ∨ config.IsDefault block) := by
  have hself : ∃ config' ∈ some config, config.Same config' := ⟨config, rfl, rfl, rfl, rfl, rfl⟩
  unfold Block.result Block.rowTest
  cases block.byValue with
  | false => exact iff_of_true hself fun h => absurd h Bool.false_ne_true
  | true =>
    rw [if_pos rfl, Option.elim_some, forall_prop_of_true rfl]
    by_cases htruth : config.truth c cv = some false
    · rw [if_pos htruth, or_iff_right (not_not.mpr htruth)]
      constructor
      · rintro ⟨_, ⟨⟩, hsame⟩
        exact ⟨hsame.value.symm, hsame.valueType.symm, hsame.isEncrypted.symm⟩
      · rintro ⟨hvalue, htype, hencrypted⟩
        exact ⟨_, rfl, hvalue.symm, htype.symm, hencrypted.symm, rfl⟩
    · rw [if_neg htruth]
      exact iff_of_true hself (.inl htruth)

/-- **When a start preserves the configuration**, of every table. -/
theorem preserved_iff {settings : Settings} {s : State} :
    Preserved c cv settings s ↔ TrueOrDefault c cv settings s := by
  have hstart := @seeded_start c cv settings s
  constructor
  · intro h before block after hl hvalue hbefore config hconfig
    by_contra hnot
    rw [not_or, not_not] at hnot
    have htest : block.rowTest c cv (s.table block.key) = some false := by
      rw [Block.rowTest, if_pos hvalue, Option.mem_def.mp hconfig, Option.elim_some, hnot.1]
    have hmem : block ∈ reached c cv s.table (blocks settings) := by
      rw [hl, reached, List.takeWhile_append_of_pos fun b hb => Block.isSome_rowTest_iff.mpr (hbefore b hb),
        List.takeWhile_cons_of_pos (by rw [htest, Option.isSome_some])]
      exact List.mem_append_right _ List.mem_cons_self
    have hsame := h.unchanged block.key config hconfig
    rw [hstart.result block hmem, Option.mem_def.mp hconfig, Block.same_result_iff] at hsame
    obtain htrue | hdefault := hsame hvalue
    · exact htrue hnot.1
    · exact hnot.2 hdefault
  · intro h
    constructor
    · intro key config hconfig
      by_cases hkey : ∃ block ∈ reached c cv s.table (blocks settings), block.key = key
      · obtain ⟨block, hblock, rfl⟩ := hkey
        rw [hstart.result block hblock, Option.mem_def.mp hconfig, Block.same_result_iff]
        intro hvalue
        -- the blocks up to this one are those that the start gets past
        obtain ⟨before, after, hsplit⟩ := List.append_of_mem hblock
        have hl : blocks settings = before ++ block :: (after ++
            (blocks settings).dropWhile fun b => (b.rowTest c cv (s.table b.key)).isSome) := by
          rw [← List.cons_append, ← List.append_assoc, ← hsplit]
          exact List.takeWhile_append_dropWhile.symm
        refine h before block _ hl hvalue (fun b hb => ?_) config hconfig
        have hb' : b ∈ reached c cv s.table (blocks settings) := by
          rw [hsplit]
          exact List.mem_append_left _ hb
        rw [reached] at hb'
        have hpasses := List.mem_takeWhile_imp hb'
        exact Block.isSome_rowTest_iff.mp hpasses
      · have hother := hstart.other key fun block hblock heq => hkey ⟨block, hblock, heq⟩
        rw [hother]
        exact ⟨config, hconfig, rfl, rfl, rfl, rfl⟩
    · exact hstart.again (blocks_keys_nodup settings) (seeded_start settings _)

/-! ## A cooldown of zero -/

/-- Numbers as far as they are read here. -/
def sampleConversions : Conversions where
  u := Unicode.asciiOnly
  int text := if text = ['0'] then some 0 else some 1
  float _ := some (.fin 1)
  json _ := none

/-- The administrator turns the cooldown off. -/
def cooldownOff : List Operation :=
  [.create 0 "notification_cooldown_minutes".toList ['0'] "integer".toList none false]

/-- The table after it. -/
def cooldownState : State :=
  (step markingCipher sampleChecks .empty
    (.create 0 "notification_cooldown_minutes".toList ['0'] "integer".toList none false)).getD .empty

/-- **A restart takes back a cooldown of zero.** -/
theorem cooldownOff_not_preserved : ¬ ∀ as t, Run (step markingCipher sampleChecks) Possible .empty as t →
    Preserved markingCipher sampleConversions ⟨60, 60⟩ t := by
  intro hall
  have h := preserved_iff.mp (hall cooldownOff cooldownState (.cons trivial rfl (.nil _)))
  -- the block of the cooldown is the last one
  have hsplit : blocks ⟨60, 60⟩ = (blocks ⟨60, 60⟩).dropLast ++
      [byValue "notification_cooldown_minutes" "60" "integer" "alerting"] := rfl
  have hnodup := blocks_keys_nodup ⟨60, 60⟩
  rw [hsplit, List.map_append, List.map_singleton] at hnodup
  have hbefore : ∀ b ∈ (blocks ⟨60, 60⟩).dropLast, ¬ b.Fails markingCipher sampleConversions cooldownState := by
    rintro b hb ⟨-, config, hconfig, -⟩
    have hne : b.key ≠ "notification_cooldown_minutes".toList :=
      (List.nodup_append.mp hnodup).2.2 b.key (List.mem_map_of_mem hb) _ (List.mem_singleton_self _)
    have hnone : cooldownState.table b.key = none := Function.update_of_ne hne _ _
    rw [hnone] at hconfig
    cases hconfig
  obtain htruth | ⟨hvalue, -, -⟩ := h _ _ _ hsplit rfl hbefore _ rfl
  · exact htruth rfl
  · cases hvalue

end DBClaw.Config
