import DBClaw.Metrics.TrafficAddresses
import DBClaw.Metrics.TrafficConservation
import Mathlib

/-! # The partition of the sessions
The rows of the traffic view against the addresses of the sessions. `partitions_iff` says when the rows are those of the
addresses, if no client is damaged; a damaged client is always parted from, or thrown together with, its twin. -/

namespace DBClaw.TrafficClients

open Addresses Text

variable {ch : Characters} {client : Client} {c : Char}

/-! ## Twins -/

/-- The address in capital letters. -/
def V6Text.upper (address : V6Text) : V6Text where
  text := address.text.map Char.toUpper
  groups := address.groups
  plain c hc := by
    obtain ⟨d, hd, rfl⟩ := List.mem_map.mp hc
    rcases address.plain d hd with halnum | hmark
    · left
      rcases Unicode.toUpper_eq_or_isUpper d with h | h
      · rwa [h]
      · rw [Char.isAlphanum, Char.isAlpha, h]
        rfl
    · right
      simp only [List.mem_cons, List.not_mem_nil, or_false] at hmark
      rcases hmark with rfl | rfl <;> decide
  denotes := by
    rw [List.map_map, ← address.denotes]
    exact congrArg parseV6 (List.map_congr_left fun c _ => Char.toLower_toUpper_eq_toLower c)

/-- An IPv4 address as a host. -/
def V4Text.asHost (address : V4Text) : HostText where
  text := address.text
  ne_nil := address.ne_nil
  plain _ hc := ⟨(address.plain hc).1, (address.plain hc).2.2.2⟩

/-- **A client that is not damaged beside one that is**: no client beside a host called `local`, and beside an address
the same address, in capital letters and brackets or without the mapped prefix. -/
def Client.twin : Client → Client
  | .empty text blank => .empty text blank
  | .host _ _ => .empty none rfl
  | .v6 address _ => .v6 address.upper (some 1)
  | .mapped _ address _ => .host address.asHost none

theorem not_infix_upper (address : V6Text) : ¬ mappedPrefix <:+: address.upper.text := by
  intro hinside
  obtain ⟨c, -, hc⟩ := List.mem_map.mp (hinside.subset (show 'f' ∈ mappedPrefix by decide))
  rcases Unicode.toUpper_eq_or_isUpper c with h | h
  · rw [h] at hc
    rw [hc] at h
    exact absurd h (by decide)
  · rw [hc] at h
    cases h

theorem twin_not_damaged (client : Client) : ¬ client.twin.Damaged ch := by
  cases client with
  | empty text blank => exact id
  | host name port => exact id
  | v6 address port =>
    rintro ⟨-, hinside | ⟨hnone, -⟩⟩
    · exact not_infix_upper address hinside
    · cases hnone
  | mapped capitals address port =>
    intro hlocal
    have hlocal : lower ch.unicode address.text = localClientId := hlocal
    rw [address.lower_eq] at hlocal
    have hmem : 'l' ∈ address.text := by
      rw [hlocal]
      decide
    rcases address.chars hmem with h | h <;> cases h

theorem upper_not_mapped (address : V6Text) : ¬ isMapped address.upper.text = true := by
  intro h
  obtain ⟨quad, htext⟩ := exists_of_isMapped h
  exact not_infix_upper address ((List.prefix_append mappedPrefix quad.text).isInfix.trans (by rw [htext]))

/-- A group of decimal digits at the end is dropped like a port. -/
theorem length_dropPort_lt {s : Text} (h : endsInDecimal s = true) : (dropPort ch s).length < s.length := by
  obtain ⟨halves, hparts, hport⟩ := (Option.any_eq_true _ _).mp h
  have hport := of_decide_eq_true hport
  have hs := eq_of_rpartition hparts
  have hdigits : halves.2.all ch.isDigitChar = true := by
    refine List.all_eq_true.mpr fun c hc => isDigitChar_of_isDigit ?_
    exact List.all_eq_true.mp hport.2 c hc
  conv_lhs => rw [hs, dropPort_append hport.1 hdigits]
  rw [hs, List.length_append, List.length_cons]
  omega

/-- **Less than the address is left** of a damaged IPv6 address. -/
theorem V6Text.exists_left (address : V6Text) (ch : Characters) {port : Option ℕ}
    (h : mappedPrefix <:+: address.text ∨ (port = none ∧ endsInDecimal address.text = true)) :
    ∃ left, rowIdOf ch (.v6 address port) = keyOf (lower ch.unicode left) ∧ left ⊆ address.text ∧
      left.length < address.text.length := by
  have hsub : dropMapped address.text ⊆ address.text := (dropMapped_sublist _).subset
  cases port with
  | none =>
    refine ⟨_, rowIdOf_v6 address, fun c hc => hsub ((dropPort_isPrefix ch _).subset hc), ?_⟩
    by_cases hinside : mappedPrefix <:+: address.text
    · exact lt_of_le_of_lt (dropPort_isPrefix ch _).length_le (length_dropMapped_lt hinside)
    · rw [dropMapped_eq_self hinside]
      exact length_dropPort_lt (h.resolve_left hinside).2
  | some port =>
    have hinside : mappedPrefix <:+: address.text := h.resolve_right fun h => by cases h.1
    exact ⟨_, rowIdOf_v6_port address port, hsub, length_dropMapped_lt hinside⟩

/-- **A damaged client and its twin are not told apart by their addresses.** -/
theorem twin_disagrees (h : client.Damaged ch) :
    ¬ (rowIdOf ch client = rowIdOf ch client.twin ↔ client.address ch = client.twin.address ch) := by
  cases client with
  | empty text blank => cases h
  | host name port =>
    have hlocal : lower ch.unicode name.text = localClientId := h
    have hrow : rowIdOf ch (.host name port) = rowIdOf ch (.empty none rfl) := by
      rw [rowIdOf_host, hlocal]
      rfl
    have haddress : (Client.host name port).address ch = .host localClientId := by
      rw [Client.address, hlocal]
      rfl
    intro hiff
    have hsame := haddress.symm.trans (hiff.mp hrow)
    cases hsame
  | v6 address port =>
    obtain ⟨hmapped, hdamage⟩ := h
    have hsame : (Client.v6 address port).address ch = (Client.v6 address port).twin.address ch := rfl
    have hsmall : lower ch.unicode address.upper.text = lower ch.unicode address.text := by
      have hmap : (address.text.map Char.toUpper).map Char.toLower = address.text.map Char.toLower := by
        rw [List.map_map]
        exact List.map_congr_left fun c _ => Char.toLower_toUpper_eq_toLower c
      rw [address.upper.lower_eq, address.lower_eq]
      exact hmap
    have htwin : rowIdOf ch (Client.v6 address port).twin = keyOf (lower ch.unicode address.text) := by
      rw [rowIdOf_eq (twin_not_damaged _), ← hsmall]
      exact congrArg keyOf (if_neg (upper_not_mapped address))
    have hcolon : ':' ∈ lower ch.unicode address.text := by
      rw [address.lower_eq]
      exact colon_mem_of_parseV6 address.denotes
    -- what is left is shorter than the address
    obtain ⟨left, hrow, hsub, hlength⟩ := address.exists_left ch hdamage
    have hshort : (lower ch.unicode left).length < (lower ch.unicode address.text).length := by
      rwa [address.length_lower ch.unicode hsub, address.length_lower ch.unicode (List.Subset.refl _)]
    intro hiff
    have hrows := hiff.mpr hsame
    rw [hrow, htwin] at hrows
    exact keyOf_ne_of_length_lt hcolon hshort hrows
  | mapped capitals address port =>
    have hcapitals : mappedStart capitals ≠ mappedPrefix := h
    have hsame : (Client.mapped capitals address port).address ch = (Client.mapped capitals address port).twin.address ch := by
      have hhost : (Client.mapped capitals address port).twin.address ch = addressOf address.text := by
        rw [address_eq (twin_not_damaged _)]
        exact congrArg addressOf (address.lower_eq ch.unicode)
      rw [hhost, addressOf_quad]
      rfl
    have htwin : rowIdOf ch (Client.mapped capitals address port).twin = keyOf address.text := by
      rw [rowIdOf_eq (twin_not_damaged _)]
      exact congrArg keyOf (address.lower_eq ch.unicode)
    intro hiff
    have hrows := hiff.mpr hsame
    rw [rowIdOf_mapped, if_neg hcapitals, htwin] at hrows
    refine keyOf_ne_of_length_lt ?_ ?_ hrows.symm
    · exact List.mem_append_left _ (by decide)
    · rw [List.length_append]
      exact Nat.lt_add_of_pos_left (by decide)

/-! ## The partition -/

variable (ch)

/-- A session whose client is reported in one of the forms. -/
structure ClientSession extends InstanceSessionItem where
  reported : Client
  client_eq : client = reported.text

/-- The sessions as they are listed. -/
def itemsOf (sessions : List ClientSession) : List InstanceSessionItem :=
  sessions.map ClientSession.toInstanceSessionItem

/-- The rates that are estimated for a row. -/
def estimatesOf (row : InstanceTrafficClientItem) : ℚ × ℚ × ℚ :=
  (row.estimatedRxRate.getD 0, row.estimatedTxRate.getD 0, row.estimatedTotalRate.getD 0)

/-- **The traffic is partitioned by address**: two sessions are in the same row just if their clients denote the same
address, loopback addresses are in the row `local`, the rows count every session once, and their rates sum to the total
rates where nothing is rounded. -/
structure Partitions (round : ℕ → ℚ → ℚ) (sessions : List ClientSession) (rx tx : Option ℚ) : Prop where
  rows : ∀ s ∈ sessions, ∀ t ∈ sessions,
    clientIdOf ch s.toInstanceSessionItem = clientIdOf ch t.toInstanceSessionItem ↔
      s.reported.address ch = t.reported.address ch
  loopback : ∀ s ∈ sessions, s.reported.address ch = .loopback →
    clientIdOf ch s.toInstanceSessionItem = localClientId
  conserved : Conserved ch (itemsOf sessions) (aggregateTrafficClients ch round (itemsOf sessions) rx tx)
  rates : ((aggregateTrafficClients ch unrounded (itemsOf sessions) rx tx).clients.map estimatesOf).sum =
    ((aggregateTrafficClients ch unrounded (itemsOf sessions) rx tx).totalRxRate.getD 0,
      (aggregateTrafficClients ch unrounded (itemsOf sessions) rx tx).totalTxRate.getD 0,
      (aggregateTrafficClients ch unrounded (itemsOf sessions) rx tx).totalRate.getD 0)

/-- **Addresses are spelled alike**: the same address is written in the same way, but for letter case, and a loopback
address in one that is known. -/
structure SpelledAlike (sessions : List ClientSession) : Prop where
  same : ∀ s ∈ sessions, ∀ t ∈ sessions, s.reported.address ch = t.reported.address ch →
    s.reported.address ch ≠ .loopback → s.reported.spelling ch = t.reported.spelling ch
  loopback : ∀ s ∈ sessions, s.reported.address ch = .loopback → s.reported.spelling ch ∈ localClientKeys

/-- There is a session for the rates, or nothing to distribute. -/
def Distributable (sessions : List ClientSession) (rx tx : Option ℚ) : Prop :=
  sessions = [] → rx = none ∨ tx = none ∨ (rx = some 0 ∧ tx = some 0)

variable {ch} {sessions : List ClientSession} {s t : ClientSession} {rx tx : Option ℚ} {round : ℕ → ℚ → ℚ}

theorem clientIdOf_eq (s : ClientSession) : clientIdOf ch s.toInstanceSessionItem = rowIdOf ch s.reported := by
  rw [clientIdOf, s.client_eq]
  rfl

/-- The keys are loopback addresses. -/
theorem addressOf_key {text : Text} (h : text ∈ localClientKeys) : addressOf text = .loopback := by
  have hkeys : ∀ key ∈ localClientKeys, addressOf key = .loopback := by decide
  exact hkeys text h

theorem keyOf_eq_local (h : client.spelling ch ∈ localClientKeys) : keyOf (client.spelling ch) = localClientId := if_pos h

/-- **Clients in one row denote one address**, if they are not damaged. -/
theorem address_eq_of_rowIdOf_eq {client client' : Client} (h : ¬ client.Damaged ch) (h' : ¬ client'.Damaged ch)
    (hrows : rowIdOf ch client = rowIdOf ch client') : client.address ch = client'.address ch := by
  rw [rowIdOf_eq h, rowIdOf_eq h', keyOf, keyOf] at hrows
  rw [address_eq h, address_eq h']
  have hlocal : localClientId ∈ localClientKeys := by decide
  split_ifs at hrows with hkey hkey' hkey'
  · rw [addressOf_key hkey, addressOf_key hkey']
  · rw [← hrows] at hkey'
    exact absurd hlocal hkey'
  · rw [hrows] at hkey
    exact absurd hlocal hkey
  · rw [hrows]

/-- A rate that is received, one that is sent, and both together. -/
def withTotal (rates : ℚ × ℚ) : ℚ × ℚ × ℚ := (rates.1, rates.2, rates.1 + rates.2)

theorem sum_withTotal (rates : List (ℚ × ℚ)) : (rates.map withTotal).sum = withTotal rates.sum := by
  induction rates with
  | nil => exact Prod.ext rfl (Prod.ext rfl (add_zero 0).symm)
  | cons rate rates ih =>
    rw [List.map_cons, List.sum_cons, ih, List.sum_cons]
    refine Prod.ext rfl (Prod.ext rfl ?_)
    show rate.1 + rate.2 + (rates.sum.1 + rates.sum.2) = rate.1 + rates.sum.1 + (rate.2 + rates.sum.2)
    ring

/-- Rates that are not measured are not distributed. -/
theorem sum_unmeasured (h : (rx.isSome && tx.isSome) = false) (items : List InstanceSessionItem) :
    ((aggregateTrafficClients ch unrounded items rx tx).clients.map estimatesOf).sum = 0 := by
  refine List.sum_eq_zero fun rates hrates => ?_
  obtain ⟨row, hrow, rfl⟩ := List.mem_map.mp hrates
  obtain ⟨maxWeight, hperm⟩ := @clients_perm ch unrounded items rx tx
  obtain ⟨bucket, -, rfl⟩ := List.mem_map.mp (hperm.mem_iff.mp hrow)
  rw [measuredRate, measuredRate, h]
  rfl

/-- **Measured rates are distributed**, when there are sessions. -/
theorem sum_measured (items : List InstanceSessionItem) (rx tx : ℚ) :
    ((aggregateTrafficClients ch unrounded items (some rx) (some tx)).clients.map estimatesOf).sum =
      withTotal (if items = [] then 0 else (rx, tx)) := by
  rw [← @sum_estimatedRates ch, ← sum_withTotal, List.map_map]
  refine congrArg List.sum (List.map_congr_left fun row hrow => ?_)
  obtain ⟨maxWeight, hperm⟩ := @clients_perm ch unrounded items (some rx) (some tx)
  obtain ⟨bucket, -, rfl⟩ := List.mem_map.mp (hperm.mem_iff.mp hrow)
  rfl

/-- **The rates of the rows sum to the total rates** just if there is a session for them. -/
theorem rates_iff : ((aggregateTrafficClients ch unrounded (itemsOf sessions) rx tx).clients.map estimatesOf).sum =
    ((aggregateTrafficClients ch unrounded (itemsOf sessions) rx tx).totalRxRate.getD 0,
      (aggregateTrafficClients ch unrounded (itemsOf sessions) rx tx).totalTxRate.getD 0,
      (aggregateTrafficClients ch unrounded (itemsOf sessions) rx tx).totalRate.getD 0) ↔
        Distributable sessions rx tx := by
  have hitems : itemsOf sessions = [] ↔ sessions = [] := List.map_eq_nil_iff
  cases hmeasured : rx.isSome && tx.isSome with
  | false =>
    rw [sum_unmeasured hmeasured]
    have hnone : rx = none ∨ tx = none := by
      rcases Bool.and_eq_false_iff.mp hmeasured with h | h
      · exact .inl (Option.not_isSome_iff_eq_none.mp (by rw [h]; exact Bool.false_ne_true))
      · exact .inr (Option.not_isSome_iff_eq_none.mp (by rw [h]; exact Bool.false_ne_true))
    refine iff_of_true ?_ fun _ => hnone.imp_right .inl
    rw [aggregateTrafficClients]
    dsimp only
    rw [hmeasured]
    rfl
  | true =>
    obtain ⟨hrx, htx⟩ := Bool.and_eq_true_iff.mp hmeasured
    obtain ⟨rxRate, rfl⟩ := Option.isSome_iff_exists.mp hrx
    obtain ⟨txRate, rfl⟩ := Option.isSome_iff_exists.mp htx
    rw [sum_measured]
    show _ = withTotal (rxRate, txRate) ↔ _
    by_cases hnil : sessions = []
    · rw [if_pos (hitems.mpr hnil)]
      constructor
      · intro h _
        obtain ⟨hrx, h⟩ := Prod.ext_iff.mp h
        obtain ⟨htx, -⟩ := Prod.ext_iff.mp h
        exact .inr (.inr ⟨congrArg some hrx.symm, congrArg some htx.symm⟩)
      · intro h
        rcases h hnil with h | h | ⟨hrx, htx⟩
        · cases h
        · cases h
        · rw [Option.some.inj hrx, Option.some.inj htx]
          rfl
    · rw [if_neg (hitems.not.mpr hnil)]
      exact iff_of_true rfl fun h => absurd h hnil

/-- **When the traffic is partitioned by address**: if no client is damaged, addresses have to be spelled alike; and a
damaged client is never with its twin. -/
theorem partitions_iff (ch : Characters) (round : ℕ → ℚ → ℚ) (sessions : List ClientSession) (rx tx : Option ℚ) :
    ((∀ s ∈ sessions, ¬ s.reported.Damaged ch) →
      (Partitions ch round sessions rx tx ↔ SpelledAlike ch sessions ∧ Distributable sessions rx tx)) ∧
    ∀ s ∈ sessions, s.reported.Damaged ch → ∀ t ∈ sessions, t.reported = s.reported.twin →
      ¬ Partitions ch round sessions rx tx := by
  constructor
  · intro hundamaged
    constructor
    · intro h
      refine ⟨⟨fun s hs t ht haddress hloopback => ?_, fun s hs haddress => ?_⟩, rates_iff.mp h.rates⟩
      · have hrows := (h.rows s hs t ht).mpr haddress
        rw [clientIdOf_eq, clientIdOf_eq, rowIdOf_eq (hundamaged s hs), rowIdOf_eq (hundamaged t ht), keyOf, keyOf] at hrows
        have hkey {s : ClientSession} (hs : s ∈ sessions) (h : s.reported.spelling ch ∈ localClientKeys) :
            s.reported.address ch = .loopback := by
          rw [address_eq (hundamaged s hs)]
          exact addressOf_key h
        rwa [if_neg fun hmem => hloopback (hkey hs hmem),
          if_neg fun hmem => hloopback (haddress.trans (hkey ht hmem))] at hrows
      · have hlocal := h.loopback s hs haddress
        rw [clientIdOf_eq, rowIdOf_eq (hundamaged s hs), keyOf] at hlocal
        split_ifs at hlocal with hmem
        · exact hmem
        · rw [hlocal]
          decide
    · rintro ⟨halike, hrates⟩
      refine ⟨fun s hs t ht => ⟨fun hrows => ?_, fun haddress => ?_⟩, fun s hs haddress => ?_, conserved _ _ _ _ _,
        rates_iff.mpr hrates⟩
      · rw [clientIdOf_eq, clientIdOf_eq] at hrows
        exact address_eq_of_rowIdOf_eq (hundamaged s hs) (hundamaged t ht) hrows
      · rw [clientIdOf_eq, clientIdOf_eq, rowIdOf_eq (hundamaged s hs), rowIdOf_eq (hundamaged t ht)]
        by_cases hloopback : s.reported.address ch = .loopback
        · rw [keyOf_eq_local (halike.loopback s hs hloopback),
            keyOf_eq_local (halike.loopback t ht (haddress.symm.trans hloopback))]
        · rw [halike.same s hs t ht haddress hloopback]
      · rw [clientIdOf_eq, rowIdOf_eq (hundamaged s hs)]
        exact keyOf_eq_local (halike.loopback s hs haddress)
  · intro s hs hdamaged t ht htwin h
    refine twin_disagrees hdamaged ?_
    have hrows := h.rows s hs t ht
    rwa [clientIdOf_eq, clientIdOf_eq, htwin] at hrows

/-- Python as if only ASCII had case and digits. -/
def asciiCharacters : Characters where
  unicode := .asciiOnly
  isDigit _ := false

/-- A session from an IPv6 address. -/
def sessionFrom (address : V6Text) : ClientSession where
  user := none
  database := none
  client := some address.text
  status := none
  durationSeconds := none
  waitEvent := none
  sqlText := none
  reported := .v6 address none
  client_eq := rfl

/-- A link-local address. -/
def firstLinkLocal : V6Text where
  text := ['f', 'e', '8', '0', ':', ':', '1']
  groups := [0xfe80, 0, 0, 0, 0, 0, 0, 1]
  plain := by simp
  denotes := by rfl

/-- The next link-local address. -/
def secondLinkLocal : V6Text where
  text := ['f', 'e', '8', '0', ':', ':', '2']
  groups := [0xfe80, 0, 0, 0, 0, 0, 0, 2]
  plain := by simp
  denotes := by rfl

/-- Two addresses that differ in their last group are in one row. -/
theorem linkLocal_not_partitioned :
    ¬ Partitions asciiCharacters unrounded [sessionFrom firstLinkLocal, sessionFrom secondLinkLocal] none none := by
  intro h
  have hrows := h.rows _ List.mem_cons_self _ (List.mem_cons_of_mem _ List.mem_cons_self)
  have hsame : clientIdOf asciiCharacters (sessionFrom firstLinkLocal).toInstanceSessionItem =
      clientIdOf asciiCharacters (sessionFrom secondLinkLocal).toInstanceSessionItem := by rfl
  exact absurd (hrows.mp hsame) (by decide)

end DBClaw.TrafficClients
