import DBClaw.Metrics.TrafficClients
import Mathlib

/-! # Conservation in the traffic view
Every session is counted in one row, the one with the id of its client, and the counts and the rates of the rows sum to
those of the instance (`sum_sessionCount`, `sum_estimatedRxRate`). -/

namespace DBClaw.TrafficClients

open Upserts

variable {ch : Characters} {sessions : List InstanceSessionItem}

/-! ## Groups -/

/-- The id of a session's client. -/
def clientIdOf (ch : Characters) (session : InstanceSessionItem) : Text := (normalizeClientIdentity ch session.client).1

/-- **What adding a session adds, the groups gain.** -/
theorem sum_collect {M : Type} [AddCommMonoid M] (measure : Bucket → M) (amount : InstanceSessionItem → M)
    (hadd : ∀ session bucket, measure (bucket.add ch session) = measure bucket + amount session)
    (hfresh : ∀ identity, measure (.fresh identity) = 0) (grouped : List Bucket) (session : InstanceSessionItem) :
    ((collect ch grouped session).map measure).sum = (grouped.map measure).sum + amount session := by
  rcases upsert_cases (fun bucket : Bucket => some bucket.clientId) (clientIdOf ch session) (Bucket.add ch session)
    (.fresh (normalizeClientIdentity ch session.client)) grouped with ⟨-, heq⟩ | ⟨before, bucket, after, rfl, -, -, heq⟩
  · rw [collect]
    change ((upsert _ (clientIdOf ch session) _ _ grouped).map measure).sum = _
    rw [heq, List.map_append, List.sum_append, List.map_singleton, List.sum_singleton, hadd, hfresh, zero_add]
  · rw [collect]
    change ((upsert _ (clientIdOf ch session) _ _ _).map measure).sum = _
    rw [heq, List.map_append, List.sum_append, List.map_cons, List.sum_cons, hadd, List.map_append, List.sum_append,
      List.map_cons, List.sum_cons, add_right_comm (measure bucket), add_assoc (List.sum _)]

/-- **Everything that is collected of the sessions is in the groups.** -/
theorem sum_groupsOf {M : Type} [AddCommMonoid M] (measure : Bucket → M) (amount : InstanceSessionItem → M)
    (hadd : ∀ session bucket, measure (bucket.add ch session) = measure bucket + amount session)
    (hfresh : ∀ identity, measure (.fresh identity) = 0) (sessions : List InstanceSessionItem) :
    ((groupsOf ch sessions).map measure).sum = (sessions.map amount).sum := by
  induction sessions using List.reverseRecOn with
  | nil => rfl
  | append_singleton sessions session ih =>
    rw [groupsOf, List.foldl_append] at *
    rw [List.foldl_cons, List.foldl_nil, sum_collect measure amount hadd hfresh, ih, List.map_append, List.sum_append,
      List.map_singleton, List.sum_singleton]

/-- The ids of some groups. -/
def idsOf (grouped : List Bucket) : List Text := grouped.filterMap fun bucket => some bucket.clientId

theorem mem_idsOf {grouped : List Bucket} {id : Text} : id ∈ idsOf grouped ↔ ∃ bucket ∈ grouped, bucket.clientId = id := by
  rw [idsOf, List.mem_filterMap]
  exact exists_congr fun bucket => and_congr_right' Option.some_inj

theorem groupsOf_append (sessions : List InstanceSessionItem) (session : InstanceSessionItem) :
    groupsOf ch (sessions ++ [session]) = collect ch (groupsOf ch sessions) session := by
  rw [groupsOf, List.foldl_append]
  rfl

theorem nodup_idsOf (sessions : List InstanceSessionItem) : (idsOf (groupsOf ch sessions)).Nodup := by
  induction sessions using List.reverseRecOn with
  | nil => exact List.nodup_nil
  | append_singleton sessions session ih =>
    rw [groupsOf_append]
    exact @nodup_upsert Bucket Text _ (fun bucket => some bucket.clientId) (clientIdOf ch session)
      (Bucket.add ch session) (.fresh (normalizeClientIdentity ch session.client)) (fun _ => rfl) rfl _ ih

/-- The ids of the groups are those of the sessions. -/
theorem mem_ids_groupsOf {sessions : List InstanceSessionItem} {id : Text} :
    id ∈ idsOf (groupsOf ch sessions) ↔ ∃ session ∈ sessions, clientIdOf ch session = id := by
  induction sessions using List.reverseRecOn with
  | nil => simp [groupsOf, idsOf]
  | append_singleton sessions session ih =>
    have hmore : (∃ s ∈ sessions ++ [session], clientIdOf ch s = id) ↔
        (∃ s ∈ sessions, clientIdOf ch s = id) ∨ clientIdOf ch session = id := by
      simp [or_and_right, exists_or]
    rw [groupsOf_append, hmore, ← ih]
    rcases upsert_cases (fun bucket : Bucket => some bucket.clientId) (clientIdOf ch session) (Bucket.add ch session)
      (.fresh (normalizeClientIdentity ch session.client)) (groupsOf ch sessions) with
      ⟨-, heq⟩ | ⟨before, bucket, after, hgroups, -, hid, heq⟩
    · change id ∈ idsOf (upsert _ (clientIdOf ch session) _ _ _) ↔ _
      rw [heq, idsOf, List.filterMap_append, List.mem_append]
      exact or_congr_right (List.mem_singleton.trans eq_comm)
    · have hsame : idsOf (collect ch (groupsOf ch sessions) session) = idsOf (groupsOf ch sessions) := by
        change idsOf (upsert _ (clientIdOf ch session) _ _ _) = _
        rw [heq, hgroups, idsOf, idsOf, List.filterMap_append, List.filterMap_append]
        rfl
      rw [hsame]
      refine (or_iff_left_of_imp ?_).symm
      rintro rfl
      exact mem_idsOf.mpr ⟨bucket, by simp [hgroups], Option.some.inj hid⟩

/-- **A group has what is collected of the sessions with its id.** -/
theorem measure_groupsOf {M : Type} [AddCommMonoid M] (measure : Bucket → M) (amount : InstanceSessionItem → M)
    (hadd : ∀ session bucket, measure (bucket.add ch session) = measure bucket + amount session)
    (hfresh : ∀ identity, measure (.fresh identity) = 0) (sessions : List InstanceSessionItem) :
    ∀ bucket ∈ groupsOf ch sessions, measure bucket =
      ((sessions.filter fun session => clientIdOf ch session = bucket.clientId).map amount).sum := by
  induction sessions using List.reverseRecOn with
  | nil => exact List.forall_mem_nil _
  | append_singleton sessions session ih =>
    have hother : ∀ bucket ∈ groupsOf ch sessions, bucket.clientId ≠ clientIdOf ch session → measure bucket =
        (((sessions ++ [session]).filter fun s => clientIdOf ch s = bucket.clientId).map amount).sum := by
      intro bucket hbucket hne
      rw [List.filter_append, List.filter_singleton, decide_eq_false hne.symm, ih bucket hbucket]
      simp
    have hown : (((sessions ++ [session]).filter fun s => clientIdOf ch s = clientIdOf ch session).map amount).sum =
        ((sessions.filter fun s => clientIdOf ch s = clientIdOf ch session).map amount).sum + amount session := by
      rw [List.filter_append, List.filter_singleton, decide_eq_true rfl]
      simp
    have hnodup := @nodup_idsOf ch sessions
    rw [groupsOf_append]
    intro bucket hbucket
    change bucket ∈ upsert _ (clientIdOf ch session) _ _ _ at hbucket
    rcases upsert_cases (fun bucket : Bucket => some bucket.clientId) (clientIdOf ch session) (Bucket.add ch session)
      (.fresh (normalizeClientIdentity ch session.client)) (groupsOf ch sessions) with
      ⟨hnew, heq⟩ | ⟨before, old, after, hgroups, hbefore, hid, heq⟩
    · rw [heq] at hbucket
      rcases List.mem_append.mp hbucket with hbucket | hbucket
      · exact hother bucket hbucket fun hsame => hnew (mem_idsOf.mpr ⟨bucket, hbucket, hsame⟩)
      · have hnone : sessions.filter (fun s => clientIdOf ch s = clientIdOf ch session) = [] := by
          refine List.filter_eq_nil_iff.mpr fun s hs hsame => hnew ?_
          exact mem_ids_groupsOf.mpr ⟨s, hs, of_decide_eq_true hsame⟩
        rw [List.mem_singleton.mp hbucket, hadd, hfresh]
        change _ = (((sessions ++ [session]).filter fun s => clientIdOf ch s = clientIdOf ch session).map amount).sum
        rw [hown, hnone]
        rfl
    · have hold : old.clientId = clientIdOf ch session := Option.some.inj hid
      have holdMem : old ∈ groupsOf ch sessions := by simp [hgroups]
      have hdistinct : ∀ b ∈ before ++ after, b.clientId ≠ clientIdOf ch session := by
        intro b hb hsame
        rw [hgroups, idsOf, List.filterMap_append, List.filterMap_cons, hid] at hnodup
        obtain ⟨-, hafter, hbefore'⟩ := List.nodup_append.mp hnodup
        rcases List.mem_append.mp hb with hb | hb
        · exact hbefore (mem_idsOf.mpr ⟨b, hb, hsame⟩)
        · exact (List.nodup_cons.mp hafter).1 (mem_idsOf.mpr ⟨b, hb, hsame⟩)
      rw [heq] at hbucket
      rcases List.mem_append.mp hbucket with hbucket | hbucket
      · exact hother bucket (by simp [hgroups, hbucket]) (hdistinct bucket (List.mem_append_left _ hbucket))
      · rcases List.mem_cons.mp hbucket with rfl | hbucket
        · rw [hadd, ih old holdMem, hold]
          change _ = (((sessions ++ [session]).filter fun s => clientIdOf ch s = old.clientId).map amount).sum
          rw [hold, hown]
        · exact hother bucket (by simp [hgroups, hbucket]) (hdistinct bucket (List.mem_append_right _ hbucket))

/-! ## Rows -/

variable {round : ℕ → ℚ → ℚ} {rx tx : Option ℚ}

/-- The rate that is distributed: none unless both are measured. -/
def measuredRate (rx tx rate : Option ℚ) : Option ℚ := if rx.isSome && tx.isSome then rate else none

/-- The weights of all groups. -/
def totalWeightOf (ch : Characters) (sessions : List InstanceSessionItem) : ℚ :=
  ((groupsOf ch sessions).map fun bucket => max bucket.weight 1).sum

/-- **The rows are the groups**, in another order. -/
theorem clients_perm (round : ℕ → ℚ → ℚ) (sessions : List InstanceSessionItem) (rx tx : Option ℚ) :
    ∃ maxWeight, (aggregateTrafficClients ch round sessions rx tx).clients.Perm
      ((groupsOf ch sessions).map (clientOf round (measuredRate rx tx rx) (measuredRate rx tx tx) maxWeight
        (totalWeightOf ch sessions))) :=
  ⟨_, List.mergeSort_perm _ _⟩

/-- **The sessions of an instance are conserved**: each is in the one row with the id of its client, a row counts the
sessions with its id, and the counts of the rows sum to those of the instance. -/
structure Conserved (ch : Characters) (sessions : List InstanceSessionItem) (traffic : Traffic) : Prop where
  nodup : (traffic.clients.map InstanceTrafficClientItem.clientId).Nodup
  covered : ∀ session ∈ sessions, ∃ row ∈ traffic.clients, row.clientId = clientIdOf ch session
  counted : ∀ row ∈ traffic.clients,
    row.sessionCount = (sessions.filter fun session => clientIdOf ch session = row.clientId).length
  session : (traffic.clients.map InstanceTrafficClientItem.sessionCount).sum = traffic.totalSessionCount
  active : (traffic.clients.map InstanceTrafficClientItem.activeSessionCount).sum = traffic.activeSessionCount
  waiting : (traffic.clients.map InstanceTrafficClientItem.waitingSessionCount).sum = traffic.waitingSessionCount
  idle : (traffic.clients.map InstanceTrafficClientItem.idleSessionCount).sum = traffic.idleSessionCount
  total : traffic.totalSessionCount = sessions.length

/-- What the rows take over from the groups sums to the same. -/
theorem sum_clients {M : Type} [AddCommMonoid M] {measure : InstanceTrafficClientItem → M} {measure' : Bucket → M}
    (h : ∀ rx tx maxWeight totalWeight bucket, measure (clientOf round rx tx maxWeight totalWeight bucket) = measure' bucket)
    (sessions : List InstanceSessionItem) (rx tx : Option ℚ) :
    ((aggregateTrafficClients ch round sessions rx tx).clients.map measure).sum =
      ((groupsOf ch sessions).map measure').sum := by
  obtain ⟨maxWeight, hperm⟩ := @clients_perm ch round sessions rx tx
  rw [(hperm.map measure).sum_eq, List.map_map]
  exact congrArg List.sum (List.map_congr_left fun bucket _ => h _ _ _ _ bucket)

/-- **The aggregation conserves the sessions.** -/
theorem conserved (ch : Characters) (round : ℕ → ℚ → ℚ) (sessions : List InstanceSessionItem) (rx tx : Option ℚ) :
    Conserved ch sessions (aggregateTrafficClients ch round sessions rx tx) := by
  obtain ⟨maxWeight, hperm⟩ := @clients_perm ch round sessions rx tx
  have hids : ((groupsOf ch sessions).map (clientOf round (measuredRate rx tx rx) (measuredRate rx tx tx) maxWeight
      (totalWeightOf ch sessions))).map InstanceTrafficClientItem.clientId = idsOf (groupsOf ch sessions) := by
    rw [List.map_map, idsOf]
    exact (congrFun List.filterMap_eq_map _).symm
  have hcount : (sessions.map fun _ => 1).sum = sessions.length := by simp
  refine ⟨?_, fun session hsession => ?_, fun row hrow => ?_, ?_, ?_, ?_, ?_, rfl⟩
  · rw [(hperm.map InstanceTrafficClientItem.clientId).nodup_iff, hids]
    exact nodup_idsOf sessions
  · obtain ⟨bucket, hbucket, hid⟩ := mem_idsOf.mp (mem_ids_groupsOf.mpr ⟨session, hsession, rfl⟩)
    exact ⟨_, hperm.mem_iff.mpr (List.mem_map_of_mem hbucket), hid⟩
  · obtain ⟨bucket, hbucket, rfl⟩ := List.mem_map.mp (hperm.mem_iff.mp hrow)
    have hmeasure := measure_groupsOf Bucket.sessionCount (fun _ => 1) (fun _ _ => rfl) (fun _ => rfl) sessions bucket hbucket
    rw [List.map_const', List.sum_replicate, smul_eq_mul, mul_one] at hmeasure
    exact hmeasure
  · rw [sum_clients (fun _ _ _ _ _ => rfl : ∀ _ _ _ _ bucket, _ = Bucket.sessionCount bucket),
      sum_groupsOf Bucket.sessionCount (fun _ => 1) (fun _ _ => rfl) (fun _ => rfl), hcount]
    rfl
  · rw [sum_clients (fun _ _ _ _ _ => rfl : ∀ _ _ _ _ bucket, _ = Bucket.activeSessionCount bucket)]
    exact sum_groupsOf Bucket.activeSessionCount _ (fun _ _ => rfl) (fun _ => rfl) sessions
  · rw [sum_clients (fun _ _ _ _ _ => rfl : ∀ _ _ _ _ bucket, _ = Bucket.waitingSessionCount bucket)]
    exact sum_groupsOf Bucket.waitingSessionCount _ (fun _ _ => rfl) (fun _ => rfl) sessions
  · rw [sum_clients (fun _ _ _ _ _ => rfl : ∀ _ _ _ _ bucket, _ = Bucket.idleSessionCount bucket)]
    exact sum_groupsOf Bucket.idleSessionCount _ (fun _ _ => rfl) (fun _ => rfl) sessions

/-! ## Rates -/

/-- A group has a positive weight in the distribution. -/
theorem totalWeightOf_pos (h : sessions ≠ []) : 0 < totalWeightOf ch sessions := by
  have hne : groupsOf ch sessions ≠ [] := by
    obtain ⟨session, hsession⟩ := List.exists_mem_of_ne_nil _ h
    obtain ⟨bucket, hbucket, -⟩ := mem_idsOf.mp (mem_ids_groupsOf.mpr ⟨session, hsession, (rfl : clientIdOf ch session = _)⟩)
    exact List.ne_nil_of_mem hbucket
  refine List.sum_pos _ (fun weight hweight => ?_) (by simpa using hne)
  obtain ⟨bucket, -, rfl⟩ := List.mem_map.mp hweight
  exact lt_of_lt_of_le one_pos (le_max_right _ _)

/-- **The shares of the groups sum to the whole**, when there are sessions. -/
theorem sum_shares (rate : ℚ) (sessions : List InstanceSessionItem) :
    ((groupsOf ch sessions).map fun bucket => rate * shareOf (totalWeightOf ch sessions) bucket).sum =
      if sessions = [] then 0 else rate := by
  by_cases hnil : sessions = []
  · subst hnil
    rfl
  · have hpos := @totalWeightOf_pos ch sessions hnil
    have hshare : ∀ bucket, rate * shareOf (totalWeightOf ch sessions) bucket =
        rate / totalWeightOf ch sessions * max bucket.weight 1 := by
      intro bucket
      rw [shareOf, if_neg hpos.ne']
      ring
    simp only [hshare]
    rw [List.sum_map_mul_left, ← totalWeightOf, div_mul_cancel₀ _ hpos.ne', if_neg hnil]

/-- Rates as they are before they are rounded. -/
def unrounded (_ : ℕ) (rate : ℚ) : ℚ := rate

/-- **The estimated rates of the rows sum to the measured rates before rounding**, when there are sessions. -/
theorem sum_estimatedRates (sessions : List InstanceSessionItem) (rx tx : ℚ) :
    ((aggregateTrafficClients ch unrounded sessions (some rx) (some tx)).clients.map fun row =>
      (row.estimatedRxRate.getD 0, row.estimatedTxRate.getD 0)).sum = if sessions = [] then 0 else (rx, tx) := by
  obtain ⟨maxWeight, hperm⟩ := @clients_perm ch unrounded sessions (some rx) (some tx)
  have hpair : ∀ rows : List Bucket, (rows.map fun bucket => (rx * shareOf (totalWeightOf ch sessions) bucket,
      tx * shareOf (totalWeightOf ch sessions) bucket)).sum =
        ((rows.map fun bucket => rx * shareOf (totalWeightOf ch sessions) bucket).sum,
          (rows.map fun bucket => tx * shareOf (totalWeightOf ch sessions) bucket).sum) := by
    intro rows
    induction rows with
    | nil => rfl
    | cons bucket rows ih => rw [List.map_cons, List.sum_cons, ih, List.map_cons, List.sum_cons, List.map_cons, List.sum_cons, Prod.mk_add_mk]
  rw [(hperm.map _).sum_eq, List.map_map]
  change ((groupsOf ch sessions).map fun bucket => (rx * shareOf (totalWeightOf ch sessions) bucket,
    tx * shareOf (totalWeightOf ch sessions) bucket)).sum = _
  rw [hpair, sum_shares, sum_shares]
  split_ifs <;> rfl

end DBClaw.TrafficClients
