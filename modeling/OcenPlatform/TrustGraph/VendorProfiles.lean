import OcenPlatform.TrustGraph.Marts

/-! Vendor profiles: each vendor has one, which counts its loans and attestations once. -/

namespace OcenPlatform.TrustGraph

open Sql

/-! ## Attestations -/

section Attestations

variable {events : List StgTradeEvent}

def attestationsOf (events : List StgTradeEvent) (vendorGstin : Option String) : Option Attestations :=
  (attestations events).find? fun a => Sql.eq vendorGstin a.vendorGstin

theorem nodup_attestations : ((attestations events).map (·.vendorGstin)).Nodup := by
  rw [attestations, List.map_map]
  exact nodup_groupBy

/-- A vendor is joined with at most one row. -/
theorem countP_sameVendor (t : TrustScoreRow) : (attestations events).countP (sameVendor t) ≤ 1 := by
  have hnodup : ((attestations events).map (·.vendorGstin)).Nodup := nodup_attestations
  have hcount := List.nodup_iff_count_le_one.mp hnodup t.vendorGstin
  rw [List.count_eq_countP, List.countP_map] at hcount
  refine le_trans (List.countP_mono_left fun a _ ha => ?_) hcount
  have heq : t.vendorGstin = a.vendorGstin := by simpa [Sql.eq] using (Bool.and_eq_true_iff.mp ha).2
  simp [heq]

theorem leftJoin_attestations (trust : List TrustScoreRow) :
    leftJoin sameVendor trust (attestations events) =
      trust.map fun t => (t, attestationsOf events t.vendorGstin) :=
  leftJoin_eq_map fun t _ => countP_sameVendor t

/-- The attestations of a vendor. -/
def attested (events : List StgTradeEvent) (gstin : String) : List StgTradeEvent :=
  (events.filter (·.isAttestation)).filter (·.vendorGstin = some gstin)

/-- A vendor has a row if it has an attestation. -/
theorem attestationsOf_some (gstin : String) : attestationsOf events (some gstin) =
    if attested events gstin = [] then none
    else some ⟨some gstin, (attested events gstin).length,
      (attested events gstin).countP (·.isKind1 = some true)⟩ := by
  have hkey : attested events gstin ≠ [] ↔ some gstin ∈ (attestations events).map (·.vendorGstin) := by
    have hmap : (attestations events).map (·.vendorGstin) =
        (groupBy StgTradeEvent.vendorGstin (events.filter (·.isAttestation))).map Prod.fst := by
      rw [attestations, List.map_map]
      rfl
    rw [hmap, mem_map_fst_groupBy, attested, Ne, List.filter_eq_nil_iff]
    simp [and_assoc]
  cases hfind : attestationsOf events (some gstin) with
  | none =>
    refine (if_pos (not_not.mp fun hne => ?_)).symm
    obtain ⟨a, ha, hvendor⟩ := List.mem_map.mp (hkey.mp hne)
    exact List.find?_eq_none.mp hfind a ha (by simp [Sql.eq, hvendor])
  | some a =>
    have ha : a ∈ attestations events := List.mem_of_find?_eq_some hfind
    have hvendor : some gstin = a.vendorGstin := by simpa [Sql.eq] using List.find?_some hfind
    rw [if_neg (hkey.mpr (hvendor ▸ List.mem_map_of_mem ha))]
    obtain ⟨g, hg, rfl⟩ := List.mem_map.mp ha
    have hrows : g.2 = attested events gstin := by
      rw [rows_of_mem_groupBy hg, ← show some gstin = g.1 from hvendor]
      rfl
    rw [← hrows, hvendor]

end Attestations

/-! ## Loans of a vendor -/

section Loans

variable {pg : Postgres} {loans : List LoanApplication} {vendor : Option String}

def loansOf (loans : List LoanApplication) (vendor : Option String) : List LoanApplication :=
  loans.filter (·.vendorGstin = vendor)

/-- The trust scores of a vendor, over the pairs with its anchors. -/
def scoresOf (trust : List TrustScoreRow) (vendor : Option String) : List TrustScoreRow :=
  trust.filter (·.vendorGstin = vendor)

theorem scoresOf_trustScores : scoresOf (trustScores pg loans) vendor =
    ((groupBy LoanApplication.pair loans).filter fun g => g.1.1 = vendor).map
      fun g => trustScoreRow pg g.1 g.2 := by
  rw [scoresOf, trustScores, List.filter_map]
  rfl

theorem sum_totalLoans :
    ((scoresOf (trustScores pg loans) vendor).map (·.totalLoans)).sum = (loansOf loans vendor).length := by
  have hsum : _ = (loansOf loans vendor).countP fun _ => true :=
    sum_countP LoanApplication.pair _ fun pair => pair.1 = vendor
  simp only [List.countP_true] at hsum
  rw [scoresOf_trustScores, List.map_map]
  exact hsum

theorem sum_repaidLoans :
    ((scoresOf (trustScores pg loans) vendor).map (·.repaidLoans)).sum =
      (loansOf loans vendor).countP (·.loanStatus = "REPAID") := by
  rw [scoresOf_trustScores, List.map_map]
  exact sum_countP LoanApplication.pair _ fun pair => pair.1 = vendor

theorem sum_totalDisbursed : sum (·.totalDisbursed) (scoresOf (trustScores pg loans) vendor) =
    sum (·.amount) (loansOf loans vendor) := by
  rw [scoresOf_trustScores, sum_map]
  exact sum_groups LoanApplication.pair _ fun pair => pair.1 = vendor

theorem countDistinct_anchorGstin :
    countDistinct (·.anchorGstin) (scoresOf (trustScores pg loans) vendor) =
      countDistinct (·.anchorGstin) (loansOf loans vendor) := by
  refine countDistinct_congr fun anchor => ?_
  have hpair : (∃ t ∈ scoresOf (trustScores pg loans) vendor, t.anchorGstin = some anchor) ↔
      (vendor, some anchor) ∈ (groupBy LoanApplication.pair loans).map Prod.fst := by
    rw [scoresOf_trustScores]
    constructor
    · rintro ⟨t, ht, hanchor⟩
      obtain ⟨g, hg, rfl⟩ := List.mem_map.mp ht
      obtain ⟨hg, hvendor⟩ := List.mem_filter.mp hg
      exact List.mem_map.mpr ⟨g, hg, Prod.ext (of_decide_eq_true hvendor) hanchor⟩
    · intro hmem
      obtain ⟨g, hg, hkey⟩ := List.mem_map.mp hmem
      exact ⟨_, List.mem_map_of_mem (List.mem_filter.mpr ⟨hg, decide_eq_true (congrArg Prod.fst hkey)⟩),
        congrArg Prod.snd hkey⟩
  rw [hpair, mem_map_fst_groupBy, List.mem_map]
  simp only [loansOf, List.mem_filter, decide_eq_true_eq, and_assoc]
  exact exists_congr fun loan => and_congr_right fun _ => Prod.mk_inj

end Loans

/-! ## Profiles -/

section Profiles

variable {pg : Postgres} {trust : List TrustScoreRow} {events : List StgTradeEvent} {p : VendorProfile}

/-- A vendor's scores, each with the vendor's attestations. -/
def joined (trust : List TrustScoreRow) (events : List StgTradeEvent) (vendor : Option String) :
    List (TrustScoreRow × Option Attestations) :=
  (scoresOf trust vendor).map fun t => (t, attestationsOf events t.vendorGstin)

/-- The groups of the profiles are the vendors. -/
theorem groupBy_profileKey : groupBy profileKey (leftJoin sameVendor trust (attestations events)) =
    ((trust.map (·.vendorGstin)).dedup).map fun vendor =>
      ((vendor, (attestationsOf events vendor).map (·.totalAttestations),
        (attestationsOf events vendor).map (·.kind1Attestations)), joined trust events vendor) := by
  have hinj : Function.Injective fun vendor : Option String =>
      (vendor, (attestationsOf events vendor).map (·.totalAttestations),
        (attestationsOf events vendor).map (·.kind1Attestations)) :=
    fun _ _ heq => congrArg Prod.fst heq
  rw [leftJoin_attestations, groupBy_map]
  refine (congrArg _ (groupBy_injective TrustScoreRow.vendorGstin hinj)).trans ?_
  rw [List.map_map, groupBy, List.map_map]
  rfl

theorem map_vendorGstin_vendorProfiles :
    (vendorProfiles pg trust events).map (·.vendorGstin) = (trust.map (·.vendorGstin)).dedup := by
  rw [vendorProfiles, groupBy_profileKey, List.map_map, List.map_map]
  exact List.map_id _

theorem mem_vendorProfiles (h : p ∈ vendorProfiles pg trust events) :
    p = vendorProfile pg (p.vendorGstin, (attestationsOf events p.vendorGstin).map (·.totalAttestations),
      (attestationsOf events p.vendorGstin).map (·.kind1Attestations))
      (joined trust events p.vendorGstin) := by
  rw [vendorProfiles, groupBy_profileKey, List.map_map] at h
  obtain ⟨vendor, -, rfl⟩ := List.mem_map.mp h
  rfl

end Profiles

/-- The counts and sums of a profile are those of the vendor's loans and attestations. -/
structure CountsVendor (loans : List LoanApplication) (events : List StgTradeEvent)
    (p : VendorProfile) : Prop where
  anchorCount : p.anchorCount =
    ((loansOf loans p.vendorGstin).filterMap (·.anchorGstin)).dedup.length
  lifetimeLoans : p.lifetimeLoans = (loansOf loans p.vendorGstin).length
  lifetimeRepaid : p.lifetimeRepaid =
    (loansOf loans p.vendorGstin).countP (·.loanStatus = "REPAID")
  lifetimeDisbursed : p.lifetimeDisbursed = sum (·.amount) (loansOf loans p.vendorGstin)
  totalAttestations : ∀ gstin, p.vendorGstin = some gstin → p.totalAttestations =
    events.countP fun e => e.isAttestation && e.vendorGstin = some gstin
  kind1Attestations : ∀ gstin, p.vendorGstin = some gstin → p.kind1Attestations =
    events.countP fun e => e.isAttestation && e.vendorGstin = some gstin && e.isKind1 = some true

theorem length_attested (events : List StgTradeEvent) (gstin : String) :
    (attested events gstin).length =
      events.countP fun e => e.isAttestation && e.vendorGstin = some gstin := by
  rw [attested, List.filter_filter, ← List.countP_eq_length_filter]
  exact List.countP_congr fun e _ => by rw [Bool.and_comm]

theorem countP_attested (events : List StgTradeEvent) (gstin : String) :
    (attested events gstin).countP (·.isKind1 = some true) = events.countP fun e =>
      e.isAttestation && e.vendorGstin = some gstin && e.isKind1 = some true := by
  rw [attested, List.filter_filter, List.countP_filter]
  refine List.countP_congr fun e _ => ?_
  rw [Bool.and_comm, Bool.and_comm (decide _)]

/-- **Each vendor of the trust scores has one profile,** which counts its loans once over its
anchors, and its attestations once over its loans. -/
theorem vendorProfiles_countOnce (pg : Postgres) (loans : List LoanApplication)
    (events : List StgTradeEvent) :
    ((vendorProfiles pg (trustScores pg loans) events).map (·.vendorGstin)).Nodup ∧
    (∀ vendor, vendor ∈ (vendorProfiles pg (trustScores pg loans) events).map (·.vendorGstin) ↔
      vendor ∈ (trustScores pg loans).map (·.vendorGstin)) ∧
    ∀ p ∈ vendorProfiles pg (trustScores pg loans) events, CountsVendor loans events p := by
  rw [map_vendorGstin_vendorProfiles]
  refine ⟨List.nodup_dedup _, fun vendor => List.mem_dedup, fun p hp => ?_⟩
  have hprofile := mem_vendorProfiles hp
  generalize p.vendorGstin = vendor at hprofile
  subst hprofile
  constructor
  · simp only [vendorProfile, joined, countDistinct, List.filterMap_map]
    exact countDistinct_anchorGstin
  · simp only [vendorProfile, joined, List.map_map]
    exact sum_totalLoans
  · simp only [vendorProfile, joined, List.map_map]
    exact sum_repaidLoans
  · simp only [vendorProfile, joined, sum_map]
    exact sum_totalDisbursed
  · intro gstin hgstin
    obtain rfl : vendor = some gstin := hgstin
    rw [← length_attested]
    simp only [vendorProfile, attestationsOf_some]
    split
    · rename_i hnone
      simp [hnone]
    · rfl
  · intro gstin hgstin
    obtain rfl : vendor = some gstin := hgstin
    rw [← countP_attested]
    simp only [vendorProfile, attestationsOf_some]
    split
    · rename_i hnone
      simp [hnone]
    · rfl

end OcenPlatform.TrustGraph
