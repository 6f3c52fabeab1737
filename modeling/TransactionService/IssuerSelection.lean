import TransactionService.Foundation.StableSort
import TransactionService.Service

namespace TransactionService

/-! # Issuer selection

`lib/issuer-selection.ts`. -/

def cryptosuitePriority : List String :=
  ["eddsa-rdfc-2022", "ecdsa-rdfc-2019", "ed25519-signature-2020"]

def cryptosuiteRank (cryptosuite : String) : Nat :=
  match cryptosuitePriority.findIdx? (· == cryptosuite) with
  | some index => index
  | none => cryptosuitePriority.length + 1

/-- A stable sort, like `Array.prototype.sort`. -/
def sortIssuerInstancesByPriority (instances : List IssuerInstance) :
    List IssuerInstance :=
  instances.insertionSort fun left right =>
    cryptosuiteRank left.cryptosuite ≤ cryptosuiteRank right.cryptosuite

def selectIssuerInstance (tenant : Tenant) (walletPresentationCryptosuites : List String) :
    Option IssuerInstance :=
  let instances := tenant.issuerInstances.getD []
  if instances.isEmpty then none
  else
    let wallet := walletPresentationCryptosuites.filter (· ≠ "")
    let matching := instances.filter fun candidate => wallet.contains candidate.cryptosuite
    if !wallet.isEmpty && !matching.isEmpty then
      (sortIssuerInstancesByPriority matching).head?
    else
      (sortIssuerInstancesByPriority instances).head?

def collectCryptosuitesFromProof (proof : Option Json) : List String :=
  match proof with
  | none => []
  | some proof =>
      if !proof.isTruthy then []
      else proof.arrayOf.flatMap fun entry =>
        ((entry.field "cryptosuite").bind Json.asString?).toList ++
          (if (entry.field "type").any (·.isText "Ed25519Signature2020") then
            ["ed25519-signature-2020"]
          else [])

def extractWalletCryptosuitesFromPresentation (data : Json) : List String :=
  let inner := match data.field "verifiablePresentation" with
    | some nested => if nested.isObjectLike then nested else data
    | none => data
  (collectCryptosuitesFromProof (inner.field "proof")).eraseDups

/-! ## What is selected -/

def walletMatching (instances : List IssuerInstance) (wallet : List String) :
    List IssuerInstance :=
  instances.filter fun candidate =>
    candidate.cryptosuite ≠ "" ∧ candidate.cryptosuite ∈ wallet

/-- What is chosen from: the matching instances, or all of them when none matches. -/
def selectionPool (instances : List IssuerInstance) (wallet : List String) :
    List IssuerInstance :=
  if walletMatching instances wallet = [] then instances
  else walletMatching instances wallet

theorem selectionPool_eq_nil {instances : List IssuerInstance} {wallet : List String} :
    selectionPool instances wallet = [] ↔ instances = [] := by
  unfold selectionPool
  split
  · rfl
  · rename_i nonempty
    refine iff_of_false nonempty ?_
    rintro rfl
    exact nonempty rfl

theorem selectIssuerInstance_eq (tenant : Tenant) (wallet : List String) :
    selectIssuerInstance tenant wallet =
      (sortIssuerInstancesByPriority
        (selectionPool (tenant.issuerInstances.getD []) wallet)).head? := by
  unfold selectIssuerInstance selectionPool
  have sameMatching : (tenant.issuerInstances.getD []).filter (fun candidate =>
      (wallet.filter (· ≠ "")).contains candidate.cryptosuite) =
      walletMatching (tenant.issuerInstances.getD []) wallet := by
    apply List.filter_congr
    intro candidate _
    simp [and_comm]
  dsimp only
  rw [sameMatching]
  by_cases none : tenant.issuerInstances.getD [] = []
  · simp [none, walletMatching, sortIssuerInstancesByPriority]
  · rw [if_neg (by simpa using none)]
    by_cases unmatched : walletMatching (tenant.issuerInstances.getD []) wallet = []
    · rw [if_pos unmatched, if_neg (by simp [unmatched])]
    · have matched := List.isEmpty_eq_false_iff.mpr unmatched
      -- a match shows that the wallet names a suite
      have named : (wallet.filter (· ≠ "")).isEmpty = false := by
        rcases List.exists_mem_of_ne_nil _ unmatched with ⟨candidate, member⟩
        rcases of_decide_eq_true (List.mem_filter.mp member).2 with ⟨nonempty, listed⟩
        exact List.isEmpty_eq_false_iff_exists_mem.mpr
          ⟨_, List.mem_filter.mpr ⟨listed, by simpa using nonempty⟩⟩
      rw [if_neg unmatched, named, matched]
      rfl

theorem cryptosuiteRank_known {index : Nat} {cryptosuite : String}
    (known : cryptosuitePriority[index]? = some cryptosuite) :
    cryptosuiteRank cryptosuite = index := by
  have bound : index < 3 := (List.getElem?_eq_some_iff.mp known).1
  have position : index = 0 ∨ index = 1 ∨ index = 2 := by omega
  rcases position with rfl | rfl | rfl
  · cases known
    decide
  · cases known
    decide
  · cases known
    decide

private theorem cryptosuiteRank_unknown {cryptosuite : String}
    (unknown : cryptosuite ∉ cryptosuitePriority) : cryptosuiteRank cryptosuite = 4 := by
  have missing : cryptosuitePriority.findIdx? (· == cryptosuite) = none := by
    rw [List.findIdx?_eq_none_iff]
    intro suite member
    exact beq_eq_false_iff_ne.mpr fun same => unknown (same ▸ member)
  simp only [cryptosuiteRank, missing]
  rfl

/-- The chosen instance matches the wallet if any does, has the smallest rank in the
pool, and is the first of that rank. -/
theorem selectIssuerInstance_optimal (tenant : Tenant) (wallet : List String) :
    (selectIssuerInstance tenant wallet = none ↔ tenant.issuerInstances.getD [] = []) ∧
    (∀ chosen, selectIssuerInstance tenant wallet = some chosen →
      chosen ∈ tenant.issuerInstances.getD [] ∧
      ((∃ candidate ∈ tenant.issuerInstances.getD [],
          candidate.cryptosuite ≠ "" ∧ candidate.cryptosuite ∈ wallet) →
        chosen ∈ walletMatching (tenant.issuerInstances.getD []) wallet) ∧
      (∀ other ∈ selectionPool (tenant.issuerInstances.getD []) wallet,
        cryptosuiteRank chosen.cryptosuite ≤ cryptosuiteRank other.cryptosuite) ∧
      ∃ before after, selectionPool (tenant.issuerInstances.getD []) wallet =
          before ++ chosen :: after ∧
        ∀ other ∈ before,
          cryptosuiteRank chosen.cryptosuite < cryptosuiteRank other.cryptosuite) ∧
    (∀ index known, cryptosuitePriority[index]? = some known →
      cryptosuiteRank known = index) ∧
    ∀ known ∈ cryptosuitePriority, ∀ unknown, unknown ∉ cryptosuitePriority →
      cryptosuiteRank known < cryptosuiteRank unknown := by
  refine ⟨?_, ?_, fun _ _ => cryptosuiteRank_known, ?_⟩
  · rw [selectIssuerInstance_eq, ← @selectionPool_eq_nil _ wallet]
    exact StableSort.head_eq_none
  · intro chosen selected
    rw [selectIssuerInstance_eq] at selected
    have first := StableSort.firstLeast_of_head selected
    have inPool := first.mem
    have inList : chosen ∈ tenant.issuerInstances.getD [] := by
      unfold selectionPool at inPool
      split at inPool
      · exact inPool
      · exact List.mem_of_mem_filter inPool
    refine ⟨inList, ?_, first.le, ?_⟩
    · rintro ⟨candidate, member, matching⟩
      have someMatch : walletMatching (tenant.issuerInstances.getD []) wallet ≠ [] :=
        List.ne_nil_of_mem (List.mem_filter.mpr ⟨member, decide_eq_true matching⟩)
      unfold selectionPool at inPool
      rwa [if_neg someMatch] at inPool
    · rcases first with ⟨before, after, split, smaller, -⟩
      exact ⟨before, after, split, smaller⟩
  · intro known member unknown notMember
    rcases List.getElem?_of_mem member with ⟨index, found⟩
    have bound : index < 3 := (List.getElem?_eq_some_iff.mp found).1
    rw [cryptosuiteRank_known found, cryptosuiteRank_unknown notMember]
    omega

end TransactionService
