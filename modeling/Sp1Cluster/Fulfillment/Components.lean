import Mathlib.Data.List.Induction
import Mathlib.Data.List.Nodup
import Mathlib.Data.List.Perm.Basic

/-!
# The components that the fulfiller reports

The fulfiller reports its own build and the builds of the cluster's components to
the network. Entries of one build are one entry of the report, which keeps the order
of the manifest. A manifest that names a fulfiller, or that does not have exactly
one coordinator build, is refused.

`FirstOccurrences` says what a list without its repetitions is. Whether a manifest
is refused is read off which builds occur in it, so neither their order nor their
number matters.
-/

set_option autoImplicit false

namespace Sp1Cluster

/-! ## Lists without repetitions -/

/-- The elements of a list, in order of their first occurrence. -/
structure FirstOccurrences {α : Type} [DecidableEq α] (list distinct : List α) : Prop where
  mem_iff : ∀ element, element ∈ distinct ↔ element ∈ list
  ordered : distinct.Pairwise fun earlier later => list.idxOf earlier < list.idxOf later

namespace FirstOccurrences

variable {α : Type} [DecidableEq α] {list distinct : List α} {element : α}

variable (first : FirstOccurrences list distinct)
include first

theorem nodup : distinct.Nodup :=
  first.ordered.imp fun before same => absurd (same ▸ before) (Nat.lt_irrefl _)

theorem ordered_append (added : List α) :
    distinct.Pairwise fun earlier later =>
      (list ++ added).idxOf earlier < (list ++ added).idxOf later := by
  refine first.ordered.imp_of_mem ?_
  intro earlier later earlierHere laterHere before
  rwa [List.idxOf_append_of_mem ((first.mem_iff _).mp earlierHere),
    List.idxOf_append_of_mem ((first.mem_iff _).mp laterHere)]

theorem concat_old (old : element ∈ list) : FirstOccurrences (list ++ [element]) distinct where
  mem_iff other := by
    rw [first.mem_iff, List.mem_append, List.mem_singleton]
    exact ⟨.inl, fun here => here.elim id fun same => same ▸ old⟩
  ordered := first.ordered_append _

theorem concat_new (new : element ∉ list) :
    FirstOccurrences (list ++ [element]) (distinct ++ [element]) where
  mem_iff other := by rw [List.mem_append, List.mem_append, first.mem_iff]
  ordered := by
    refine List.pairwise_append.mpr
      ⟨first.ordered_append _, List.pairwise_singleton _ _, ?_⟩
    intro earlier here later last
    obtain rfl := List.mem_singleton.mp last
    have there := (first.mem_iff _).mp here
    rw [List.idxOf_append_of_mem there, List.idxOf_append_of_notMem new]
    exact Nat.lt_add_right _ (List.idxOf_lt_length_of_mem there)

/-- One element of a kind is left if the list has exactly one of that kind. -/
theorem countP_eq_one_iff (kind : α → Bool) :
    distinct.countP kind = 1 ↔ ∃! element, element ∈ list ∧ kind element = true := by
  rw [List.countP_eq_length_filter, List.length_eq_one_iff]
  have mem : ∀ {only : α}, distinct.filter kind = [only] ↔
      ∀ element, element ∈ list ∧ kind element = true ↔ element = only := by
    intro only
    rw [← List.perm_singleton, List.perm_ext_iff_of_nodup (first.nodup.filter _)
      (List.nodup_singleton _)]
    simp only [List.mem_filter, first.mem_iff, List.mem_singleton]
  constructor
  · rintro ⟨only, left⟩
    exact ⟨only, (mem.mp left only).mpr rfl, fun other here => (mem.mp left other).mp here⟩
  · rintro ⟨only, here, unique⟩
    exact ⟨only, mem.mpr fun other => ⟨unique other, fun same => same ▸ here⟩⟩

end FirstOccurrences

/-! ## The report -/

/-- `ClusterComponentInfo`. -/
structure ClusterComponentInfo where
  component : String
  version : String
  gitSha : String
  imageTag : String
deriving DecidableEq, Repr

/-- `ComponentInfo` of the network. -/
structure ComponentInfo where
  component : String
  version : String
  gitSha : String
  imageTag : String
deriving DecidableEq, Repr

/-- `BuildIdentity`. -/
structure BuildIdentity where
  version : String
  gitSha : String
  imageTag : String

def fulfillerComponent (identity : BuildIdentity) : ComponentInfo where
  component := "fulfiller"
  version := identity.version
  gitSha := identity.gitSha
  imageTag := identity.imageTag

def componentFromCluster (entry : ClusterComponentInfo) : ComponentInfo where
  component := entry.component
  version := entry.version
  gitSha := entry.gitSha
  imageTag := entry.imageTag

/-- What entries of the manifest are told apart by. -/
def ComponentInfo.build (entry : ComponentInfo) : String × String × String × String :=
  (entry.component, entry.version, entry.gitSha, entry.imageTag)

theorem ComponentInfo.build_inj {entry other : ComponentInfo} :
    entry.build = other.build ↔ entry = other := by
  cases entry
  cases other
  simp [ComponentInfo.build]

/-- A turn of the loop over the manifest, which has the components so far and the
builds it has seen. -/
def pushUnseen (state : List ComponentInfo × List (String × String × String × String))
    (entry : ClusterComponentInfo) :
    List ComponentInfo × List (String × String × String × String) :=
  let mapped := componentFromCluster entry
  if mapped.build ∈ state.2 then state else (state.1 ++ [mapped], mapped.build :: state.2)

/-- `assemble_components`. -/
def assembleComponents (identity : BuildIdentity)
    (clusterComponents : List ClusterComponentInfo) : Except String (List ComponentInfo) :=
  let components := (clusterComponents.foldl pushUnseen ([fulfillerComponent identity], [])).1
  let fulfillers := components.countP (·.component == "fulfiller")
  if 1 < fulfillers then
    .error (s!"manifest reported {fulfillers} fulfiller builds; " ++
      "refusing to send a malformed report")
  else
    let coordinators := components.countP (·.component == "coordinator")
    if coordinators ≠ 1 then
      .error (s!"cluster manifest reported {coordinators} coordinator builds " ++
        "(expected exactly 1); refusing to send a malformed report")
    else .ok components

/-- The builds of a manifest, with repetitions. -/
def clusterBuilds (clusterComponents : List ClusterComponentInfo) : List ComponentInfo :=
  clusterComponents.map componentFromCluster

/-- The loop keeps the builds of the manifest without their repetitions. -/
theorem foldl_pushUnseen (own : ComponentInfo) (clusterComponents : List ClusterComponentInfo) :
    ∃ builds, (clusterComponents.foldl pushUnseen ([own], [])).1 = own :: builds ∧
      FirstOccurrences (clusterBuilds clusterComponents) builds ∧
      ∀ entry, entry.build ∈ (clusterComponents.foldl pushUnseen ([own], [])).2 ↔
        entry ∈ clusterBuilds clusterComponents := by
  -- the loop appends, so the induction takes the manifest apart at its end
  induction clusterComponents using List.reverseRecOn with
  | nil => exact ⟨[], rfl, ⟨fun _ => Iff.rfl, .nil⟩, fun _ => by simp [clusterBuilds]⟩
  | append_singleton past entry ih =>
    obtain ⟨builds, kept, first, seen⟩ := ih
    have grown : clusterBuilds (past ++ [entry]) =
        clusterBuilds past ++ [componentFromCluster entry] := by simp [clusterBuilds]
    rw [grown, List.foldl_append, List.foldl_cons, List.foldl_nil]
    generalize past.foldl pushUnseen ([own], []) = state at kept seen ⊢
    unfold pushUnseen
    dsimp only
    split
    · next known =>
      have old := (seen _).mp known
      refine ⟨builds, kept, first.concat_old old, fun other => ?_⟩
      rw [seen, List.mem_append, List.mem_singleton]
      exact ⟨.inl, fun here => here.elim id fun same => same ▸ old⟩
    · next unknown =>
      have new := fun known => unknown ((seen _).mpr known)
      refine ⟨_, congrArg (· ++ _) kept, first.concat_new new, fun other => ?_⟩
      rw [List.mem_cons, seen, ComponentInfo.build_inj, List.mem_append, List.mem_singleton,
        or_comm]

/-- A manifest that may be reported. -/
@[mk_iff]
structure WellFormed (clusterComponents : List ClusterComponentInfo) : Prop where
  fulfiller : ∀ entry ∈ clusterComponents, entry.component ≠ "fulfiller"
  coordinator : ∃! build, build ∈ clusterBuilds clusterComponents ∧
    build.component = "coordinator"

theorem assembleComponents_eq_ok (identity : BuildIdentity)
    (clusterComponents : List ClusterComponentInfo) :
    ∃ builds, FirstOccurrences (clusterBuilds clusterComponents) builds ∧
      ∀ components, assembleComponents identity clusterComponents = .ok components ↔
        WellFormed clusterComponents ∧ components = fulfillerComponent identity :: builds := by
  obtain ⟨builds, kept, first, -⟩ :=
    foldl_pushUnseen (fulfillerComponent identity) clusterComponents
  refine ⟨builds, first, fun components => ?_⟩
  have fulfillers : 1 < (fulfillerComponent identity :: builds).countP
      (·.component == "fulfiller") ↔
        ¬ ∀ entry ∈ clusterComponents, entry.component ≠ "fulfiller" := by
    rw [List.countP_cons_of_pos (by rfl), Nat.lt_add_left_iff_pos, List.countP_pos_iff]
    simp [first.mem_iff, clusterBuilds, componentFromCluster]
  have coordinators := first.countP_eq_one_iff (·.component == "coordinator")
  have others : (fulfillerComponent identity :: builds).countP (·.component == "coordinator") =
      builds.countP (·.component == "coordinator") :=
    List.countP_cons_of_neg (by simp [fulfillerComponent])
  simp only [beq_iff_eq, ← others] at coordinators
  unfold assembleComponents
  simp only [kept, fulfillers]
  constructor
  · intro returned
    split at returned
    · cases returned
    · next unnamed =>
      split at returned
      · cases returned
      · next one =>
        exact ⟨⟨not_not.mp unnamed, coordinators.mp (not_not.mp one)⟩,
          (Except.ok.inj returned).symm⟩
  · rintro ⟨wellFormed, rfl⟩
    rw [if_neg (not_not.mpr wellFormed.fulfiller),
      if_neg (not_not.mpr (coordinators.mpr wellFormed.coordinator))]

/-- **A component report is well formed or refused.** A manifest is reported exactly if it names
no fulfiller and has exactly one coordinator build. The report is the fulfiller's own entry and
the distinct builds of the manifest in order of their first occurrence. Manifests with the same
entries, in any order and number, are reported both or neither, with the same entries. -/
theorem component_report (identity : BuildIdentity)
    (clusterComponents : List ClusterComponentInfo) :
    ((∃ components, assembleComponents identity clusterComponents = .ok components) ↔
      WellFormed clusterComponents) ∧
    (∀ components, assembleComponents identity clusterComponents = .ok components →
      ∃ builds, components = fulfillerComponent identity :: builds ∧ builds.Nodup ∧
        FirstOccurrences (clusterBuilds clusterComponents) builds) ∧
    ∀ other : List ClusterComponentInfo, (∀ entry, entry ∈ other ↔ entry ∈ clusterComponents) →
      ((∃ components, assembleComponents identity other = .ok components) ↔
        ∃ components, assembleComponents identity clusterComponents = .ok components) ∧
      ∀ components others, assembleComponents identity clusterComponents = .ok components →
        assembleComponents identity other = .ok others →
          ∀ entry, entry ∈ others ↔ entry ∈ components := by
  obtain ⟨builds, first, returns⟩ := assembleComponents_eq_ok identity clusterComponents
  refine ⟨?_, ?_, ?_⟩
  · simp only [returns, exists_and_left, exists_eq, and_true]
  · intro components returned
    exact ⟨builds, ((returns _).mp returned).2, first.nodup, first⟩
  · intro other same
    obtain ⟨otherBuilds, firstOther, returnsOther⟩ := assembleComponents_eq_ok identity other
    have sameBuilds : ∀ build, build ∈ clusterBuilds other ↔
        build ∈ clusterBuilds clusterComponents := by
      intro build
      simp only [clusterBuilds, List.mem_map, same]
    constructor
    · simp only [returns, returnsOther, exists_and_left, exists_eq, and_true, wellFormed_iff, same,
        sameBuilds]
    · intro components others returned returnedOther entry
      rw [((returns _).mp returned).2, ((returnsOther _).mp returnedOther).2, List.mem_cons,
        List.mem_cons, first.mem_iff, firstOther.mem_iff, sameBuilds]

end Sp1Cluster
