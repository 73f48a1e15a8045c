import Mksync.LeastFirst
import Mathlib.Data.Prod.Lex
import Mathlib.Data.String.Basic
import Mathlib.Data.List.Perm.Basic

/-!
# Selecting a platform backend

Backends register themselves during static initialization, in no particular order. The
selection goes through them by order and name and takes the first one whose check supports
what is required and that can be created.
-/
namespace Mksync

/-- `enum class BackendRequirement : uint8_t`, a set of flags. -/
structure BackendRequirement where
  flags : UInt8
  deriving DecidableEq, Repr

namespace BackendRequirement

def screens : BackendRequirement := ⟨1⟩
def capture : BackendRequirement := ⟨2⟩
def injection : BackendRequirement := ⟨4⟩

end BackendRequirement

def hasRequirement (value required : BackendRequirement) : Bool :=
  value.flags &&& required.flags ≠ 0

structure BackendFeatureCheck where
  supported : Bool := false
  detail : String := ""
  deriving DecidableEq, Repr

structure BackendCheck where
  available : Bool := false
  detail : String := ""
  screens : BackendFeatureCheck := {}
  capture : BackendFeatureCheck := {}
  injection : BackendFeatureCheck := {}
  deriving DecidableEq, Repr

def BackendCheck.supports (check : BackendCheck) (requirements : BackendRequirement) : Bool :=
  if !check.available then false
  else if hasRequirement requirements .screens && !check.screens.supported then false
  else if hasRequirement requirements .capture && !check.capture.supported then false
  else if hasRequirement requirements .injection && !check.injection.supported then false
  else true

def unavailableCheck (detail : String) : BackendCheck where
  available := false
  detail := detail
  screens := ⟨false, "Backend unavailable"⟩
  capture := ⟨false, "Backend unavailable"⟩
  injection := ⟨false, "Backend unavailable"⟩

/-- The functions of a backend are what calling them comes to: a check completes or throws an
exception with a text, a creation gives a platform or a null pointer. `none` is a null
function pointer. -/
structure BackendDescriptor (P : Type) where
  name : String
  displayName : String
  order : Nat := 0
  check : Option (Except String BackendCheck) := none
  create : Option (Option P) := none

namespace BackendDescriptor

variable {P : Type}

def Complete (descriptor : BackendDescriptor P) : Prop :=
  descriptor.name ≠ "" ∧ descriptor.displayName ≠ "" ∧ descriptor.check.isSome = true ∧
    descriptor.create.isSome = true

instance (descriptor : BackendDescriptor P) : Decidable descriptor.Complete :=
  inferInstanceAs (Decidable (_ ∧ _))

/-- What the backends are sorted by. -/
def rank (descriptor : BackendDescriptor P) : Nat ×ₗ String :=
  toLex (descriptor.order, descriptor.name)

end BackendDescriptor

/-- A registered backend has both functions. -/
@[ext] structure Registered (P : Type) where
  descriptor : BackendDescriptor P
  complete : descriptor.Complete

namespace Registered

variable {P : Type}

theorem descriptor_injective : Function.Injective (descriptor : Registered P → _) :=
  fun _ _ => Registered.ext

def check (backend : Registered P) : Except String BackendCheck :=
  backend.descriptor.check.get backend.complete.2.2.1

def create (backend : Registered P) : Option P :=
  backend.descriptor.create.get backend.complete.2.2.2

end Registered

/-- The registered backends, in the order of their registration. -/
structure BackendRegistry (P : Type) where
  descriptors : List (Registered P)
  distinct : (descriptors.map (·.descriptor.name)).Nodup

inductive Errc
  | noSuchDevice | operationNotSupported
  deriving DecidableEq, Repr

structure PlatformSelection (P : Type) where
  platform : P
  descriptor : BackendDescriptor P
  check : BackendCheck

namespace BackendRegistry

variable {P : Type}

def empty : BackendRegistry P := ⟨[], List.nodup_nil⟩

/-- The constructor of `BackendRegistration`. -/
def register (registry : BackendRegistry P) (descriptor : BackendDescriptor P) :
    BackendRegistry P :=
  if hcomplete : descriptor.Complete then
    if hduplicate : descriptor.name ∈ registry.descriptors.map (·.descriptor.name) then registry
    else
      ⟨registry.descriptors ++ [⟨descriptor, hcomplete⟩], by
        rw [List.map_append, List.map_singleton, ← List.concat_eq_append]
        exact registry.distinct.concat hduplicate⟩
  else registry

def registeredBackends (registry : BackendRegistry P) : List (Registered P) :=
  LeastFirst.sorted (fun backend => backend.descriptor.rank) registry.descriptors

def findBackend (registry : BackendRegistry P) (name : String) : Option (Registered P) :=
  registry.registeredBackends.find? (·.descriptor.name = name)

def checkBackend (registry : BackendRegistry P) (name : String) : BackendCheck :=
  match registry.findBackend name with
  | none => unavailableCheck ("Unknown backend '" ++ name ++ "'")
  | some backend =>
    match backend.check with
    | .ok check => check
    | .error what => unavailableCheck what

/-- One turn of the loop of `selectBackend`, `none` goes on to the next backend. -/
def tryBackend (registry : BackendRegistry P) (requirements : BackendRequirement)
    (backend : Registered P) : Option (PlatformSelection P) :=
  let check := registry.checkBackend backend.descriptor.name
  if !check.supports requirements then none
  else
    match backend.create with
    | none => none
    | some platform => some { platform, descriptor := backend.descriptor, check }

def selectAmong (registry : BackendRegistry P) (requirements : BackendRequirement)
    (candidates : List (Registered P)) : Except Errc (PlatformSelection P) :=
  match candidates.findSome? (registry.tryBackend requirements) with
  | some selection => .ok selection
  | none => .error .operationNotSupported

def selectBackend (registry : BackendRegistry P) (name : String)
    (requirements : BackendRequirement) : Except Errc (PlatformSelection P) :=
  if name = "" ∨ name = "auto" then
    registry.selectAmong requirements registry.registeredBackends
  else
    match registry.findBackend name with
    | some backend => registry.selectAmong requirements [backend]
    | none => .error .noSuchDevice

end BackendRegistry

/-! ### One backend -/

namespace BackendDescriptor

variable {P : Type}

/-- The selection is of this backend: its check supports the requirements, and it has been
created. -/
def Offers (descriptor : BackendDescriptor P) (requirements : BackendRequirement)
    (selection : PlatformSelection P) : Prop :=
  descriptor.check = some (.ok selection.check) ∧ selection.check.supports requirements = true ∧
    descriptor.create = some (some selection.platform) ∧ selection.descriptor = descriptor

def Suitable (descriptor : BackendDescriptor P) (requirements : BackendRequirement) : Prop :=
  ∃ selection, descriptor.Offers requirements selection

end BackendDescriptor

theorem unavailableCheck_supports (detail : String) (requirements : BackendRequirement) :
    (unavailableCheck detail).supports requirements = false := rfl

namespace BackendRegistry

variable {P : Type} {registry : BackendRegistry P} {backend other : Registered P}
  {requirements : BackendRequirement} {selection : PlatformSelection P} {name : String}
  {descriptors : List (BackendDescriptor P)}

@[simp] theorem mem_registeredBackends :
    backend ∈ registry.registeredBackends ↔ backend ∈ registry.descriptors :=
  LeastFirst.mem_sorted

/-- The name tells the backends apart. -/
theorem eq_of_name_eq (hbackend : backend ∈ registry.descriptors)
    (hother : other ∈ registry.descriptors) (h : backend.descriptor.name = other.descriptor.name) :
    backend = other :=
  List.inj_on_of_nodup_map registry.distinct hbackend hother h

theorem findBackend_eq_some :
    registry.findBackend name = some backend ↔
      backend ∈ registry.descriptors ∧ backend.descriptor.name = name := by
  constructor
  · intro h
    exact ⟨mem_registeredBackends.mp (List.mem_of_find?_eq_some h),
      by simpa using List.find?_some h⟩
  · rintro ⟨hmem, rfl⟩
    cases hfind : registry.findBackend backend.descriptor.name with
    | none =>
      have hnone := List.find?_eq_none.mp hfind backend (mem_registeredBackends.mpr hmem)
      simp at hnone
    | some found =>
      have hfound := mem_registeredBackends.mp (List.mem_of_find?_eq_some hfind)
      have hname : found.descriptor.name = backend.descriptor.name := by
        simpa using List.find?_some hfind
      rw [eq_of_name_eq hfound hmem hname]

theorem findBackend_eq_none :
    registry.findBackend name = none ↔
      ∀ backend ∈ registry.descriptors, backend.descriptor.name ≠ name := by
  simp [findBackend, List.find?_eq_none]

/-- A turn asks the backend itself, and a check that throws supports nothing. -/
theorem tryBackend_eq_some (hmem : backend ∈ registry.descriptors) :
    registry.tryBackend requirements backend = some selection ↔
      backend.descriptor.Offers requirements selection := by
  obtain ⟨descriptor, hcomplete⟩ := backend
  obtain ⟨check, hcheck⟩ := Option.isSome_iff_exists.mp hcomplete.2.2.1
  obtain ⟨create, hcreate⟩ := Option.isSome_iff_exists.mp hcomplete.2.2.2
  have hrun : Registered.check ⟨descriptor, hcomplete⟩ = check := by
    simp [Registered.check, hcheck]
  have hmake : Registered.create ⟨descriptor, hcomplete⟩ = create := by
    simp [Registered.create, hcreate]
  have hfind : registry.findBackend descriptor.name = some ⟨descriptor, hcomplete⟩ :=
    findBackend_eq_some.mpr ⟨hmem, rfl⟩
  simp only [tryBackend, checkBackend, hfind, hrun, hmake, BackendDescriptor.Offers, hcheck,
    hcreate]
  cases check with
  | error what => simp [unavailableCheck_supports]
  | ok check =>
    cases create with
    | none => simp
    | some platform =>
      obtain ⟨platform', descriptor', check'⟩ := selection
      simp only [Option.some.injEq, Except.ok.injEq]
      split_ifs with hsupports
      · simp only [Bool.not_eq_true'] at hsupports
        simp only [false_iff, not_and]
        rintro rfl
        simp [hsupports]
      · simp only [Bool.not_eq_true', Bool.not_eq_false] at hsupports
        simp only [Option.some.injEq, PlatformSelection.mk.injEq]
        constructor
        · rintro ⟨rfl, rfl, rfl⟩
          exact ⟨rfl, hsupports, rfl, rfl⟩
        · rintro ⟨rfl, _, rfl, rfl⟩
          exact ⟨rfl, rfl, rfl⟩

theorem tryBackend_eq_none (hmem : backend ∈ registry.descriptors) :
    registry.tryBackend requirements backend = none ↔
      ¬ backend.descriptor.Suitable requirements := by
  rw [Option.eq_none_iff_forall_ne_some, BackendDescriptor.Suitable, not_exists]
  exact forall_congr' fun selection => not_congr (tryBackend_eq_some hmem)

/-! ### Registration -/

theorem register_descriptors {descriptor : BackendDescriptor P} (hcomplete : descriptor.Complete)
    (hfresh : descriptor.name ∉ registry.descriptors.map (·.descriptor.name)) :
    (registry.register descriptor).descriptors =
      registry.descriptors ++ [⟨descriptor, hcomplete⟩] := by
  rw [register, dif_pos hcomplete, dif_neg hfresh]

/-- Complete backends under new names are all registered. -/
theorem foldl_register (hcomplete : ∀ descriptor ∈ descriptors, descriptor.Complete)
    (hdistinct : (registry.descriptors.map (·.descriptor.name) ++
      descriptors.map BackendDescriptor.name).Nodup) :
    (descriptors.foldl register registry).descriptors.map (·.descriptor) =
      registry.descriptors.map (·.descriptor) ++ descriptors := by
  induction descriptors generalizing registry with
  | nil => simp
  | cons descriptor rest ih =>
    obtain ⟨hfirst, hrest⟩ := List.forall_mem_cons.mp hcomplete
    have hfresh : descriptor.name ∉ registry.descriptors.map (·.descriptor.name) := by
      intro hmem
      exact (List.nodup_append.mp hdistinct).2.2 _ hmem _ (by simp) rfl
    have hregister := register_descriptors hfirst hfresh
    rw [List.foldl_cons, ih hrest (by rw [hregister]; simpa using hdistinct), hregister]
    simp

def registerAll (descriptors : List (BackendDescriptor P)) : BackendRegistry P :=
  descriptors.foldl register empty

theorem registerAll_descriptors (hcomplete : ∀ descriptor ∈ descriptors, descriptor.Complete)
    (hdistinct : (descriptors.map BackendDescriptor.name).Nodup) :
    (registerAll descriptors).descriptors.map (·.descriptor) = descriptors := by
  have hnames : ((empty : BackendRegistry P).descriptors.map (·.descriptor.name) ++
      descriptors.map BackendDescriptor.name).Nodup := by
    simpa [empty] using hdistinct
  simpa [empty, registerAll] using foldl_register hcomplete hnames

/-! ### The selection -/

/-- The result is of the least suitable backend, if there is one. -/
def IsLeastSuitable (descriptors : List (BackendDescriptor P))
    (requirements : BackendRequirement) : Except Errc (PlatformSelection P) → Prop
  | .ok selection => ∃ descriptor ∈ descriptors, descriptor.Offers requirements selection ∧
      ∀ other ∈ descriptors, other.Suitable requirements → descriptor.rank ≤ other.rank
  | .error error => error = .operationNotSupported ∧
      ∀ descriptor ∈ descriptors, ¬ descriptor.Suitable requirements

/-- The result is of the backend of that name, or says that it is missing or not suitable. -/
def IsOfName (descriptors : List (BackendDescriptor P)) (name : String)
    (requirements : BackendRequirement) : Except Errc (PlatformSelection P) → Prop
  | .ok selection => ∃ descriptor ∈ descriptors, descriptor.name = name ∧
      descriptor.Offers requirements selection
  | .error error =>
      (∀ descriptor ∈ descriptors, descriptor.name = name → ¬ descriptor.Suitable requirements) ∧
      (error = .noSuchDevice ↔ ∀ descriptor ∈ descriptors, descriptor.name ≠ name)

theorem selectAmong_registered (registry : BackendRegistry P) (requirements : BackendRequirement) :
    IsLeastSuitable (registry.descriptors.map (·.descriptor)) requirements
      (registry.selectAmong requirements registry.registeredBackends) := by
  unfold selectAmong
  split
  · next selection hfound =>
    obtain ⟨backend, hmem, hanswer, hleast⟩ := LeastFirst.findSome?_sorted hfound
    refine ⟨backend.descriptor, List.mem_map_of_mem hmem, (tryBackend_eq_some hmem).mp hanswer, ?_⟩
    intro other hother hsuitable
    obtain ⟨candidate, hcandidate, rfl⟩ := List.mem_map.mp hother
    exact hleast candidate hcandidate fun hnone =>
      (tryBackend_eq_none hcandidate).mp hnone hsuitable
  · next hnone =>
    refine ⟨rfl, ?_⟩
    intro descriptor hdescriptor
    obtain ⟨candidate, hcandidate, rfl⟩ := List.mem_map.mp hdescriptor
    exact (tryBackend_eq_none hcandidate).mp
      (LeastFirst.findSome?_sorted_eq_none.mp hnone candidate hcandidate)

theorem selectBackend_named (hempty : name ≠ "") (hauto : name ≠ "auto")
    (registry : BackendRegistry P) (requirements : BackendRequirement) :
    IsOfName (registry.descriptors.map (·.descriptor)) name requirements
      (registry.selectBackend name requirements) := by
  rw [selectBackend, if_neg (by simp [hempty, hauto])]
  split
  · next backend hfind =>
    obtain ⟨hmem, hname⟩ := findBackend_eq_some.mp hfind
    have hval := List.mem_map_of_mem (f := Registered.descriptor) hmem
    unfold selectAmong
    split
    · next selection hfound =>
      have hanswer : registry.tryBackend requirements backend = some selection := by
        simpa using hfound
      exact ⟨backend.descriptor, hval, hname, (tryBackend_eq_some hmem).mp hanswer⟩
    · next hnone =>
      have hanswer : registry.tryBackend requirements backend = none := by simpa using hnone
      refine ⟨?_, ?_⟩
      · intro descriptor hdescriptor hsame
        obtain ⟨candidate, hcandidate, rfl⟩ := List.mem_map.mp hdescriptor
        rw [eq_of_name_eq hcandidate hmem (hsame.trans hname.symm)]
        exact (tryBackend_eq_none hmem).mp hanswer
      · simp only [reduceCtorEq, false_iff, not_forall]
        exact ⟨backend.descriptor, hval, by simp [hname]⟩
  · next hnone =>
    rw [findBackend_eq_none] at hnone
    have hmissing : ∀ descriptor ∈ registry.descriptors.map (·.descriptor),
        descriptor.name ≠ name := by
      intro descriptor hdescriptor
      obtain ⟨candidate, hcandidate, rfl⟩ := List.mem_map.mp hdescriptor
      exact hnone candidate hcandidate
    exact ⟨fun descriptor hdescriptor hname => absurd hname (hmissing descriptor hdescriptor),
      by simpa using hmissing⟩

/-- A selection depends on the sorted backends only. -/
theorem selectBackend_congr {registry' : BackendRegistry P}
    (h : registry.registeredBackends = registry'.registeredBackends) (name : String)
    (requirements : BackendRequirement) :
    registry.selectBackend name requirements = registry'.selectBackend name requirements := by
  have hfind : registry.findBackend = registry'.findBackend := by
    funext name
    rw [findBackend, h, findBackend]
  have htry : registry.tryBackend requirements = registry'.tryBackend requirements := by
    funext backend
    rw [tryBackend, checkBackend, hfind, tryBackend, checkBackend]
  simp only [selectBackend, selectAmong, htry, hfind, h]

theorem registeredBackends_perm {registry' : BackendRegistry P}
    (h : registry.descriptors.Perm registry'.descriptors) :
    registry.registeredBackends = registry'.registeredBackends := by
  apply LeastFirst.sorted_eq_of_perm _ h
  intro backend hbackend other hother hrank
  have hpair : (backend.descriptor.order, backend.descriptor.name) =
      (other.descriptor.order, other.descriptor.name) :=
    toLex.injective hrank
  exact eq_of_name_eq hbackend hother (congrArg Prod.snd hpair)

/-- Without a name the least suitable backend is selected, with a name that one or none, and
the order of the registrations does not matter. -/
theorem first_suitable_selected (hcomplete : ∀ descriptor ∈ descriptors, descriptor.Complete)
    (hdistinct : (descriptors.map BackendDescriptor.name).Nodup)
    (requirements : BackendRequirement) :
    (∀ name, name = "" ∨ name = "auto" → IsLeastSuitable descriptors requirements
      ((registerAll descriptors).selectBackend name requirements)) ∧
    (∀ name, name ≠ "" → name ≠ "auto" → IsOfName descriptors name requirements
      ((registerAll descriptors).selectBackend name requirements)) ∧
    ∀ descriptors', descriptors.Perm descriptors' → ∀ name,
      (registerAll descriptors').selectBackend name requirements =
        (registerAll descriptors).selectBackend name requirements := by
  have hall := registerAll_descriptors hcomplete hdistinct
  refine ⟨?_, ?_, ?_⟩
  · intro name hname
    have hleast := selectAmong_registered (registerAll descriptors) requirements
    rw [hall] at hleast
    rwa [selectBackend, if_pos hname]
  · intro name hempty hauto
    have hnamed := selectBackend_named hempty hauto (registerAll descriptors) requirements
    rwa [hall] at hnamed
  · intro descriptors' hperm name
    have hall' := registerAll_descriptors
      (fun descriptor hmem => hcomplete descriptor (hperm.symm.subset hmem))
      ((hperm.map _).nodup_iff.mp hdistinct)
    apply selectBackend_congr
    apply registeredBackends_perm
    rw [← List.map_perm_map_iff Registered.descriptor_injective, hall', hall]
    exact hperm.symm

/-- A backend without capture, and one with everything. -/
def partialBackend : BackendDescriptor Nat where
  name := "test-partial"
  displayName := "Test partial"
  order := 10
  check := some (.ok { available := true, screens.supported := true, injection.supported := true })
  create := some (some 1)

def completeBackend : BackendDescriptor Nat where
  name := "test-complete"
  displayName := "Test complete"
  order := 20
  check := some (.ok { available := true, screens.supported := true, capture.supported := true,
                       injection.supported := true })
  create := some (some 2)

theorem first_suitable_selected_swapped :
    (registerAll [completeBackend, partialBackend]).selectBackend "" ⟨3⟩ =
      (registerAll [partialBackend, completeBackend]).selectBackend "" ⟨3⟩ :=
  (first_suitable_selected (by decide) (by decide) ⟨3⟩).2.2 _ (List.Perm.swap _ _ _) ""

example : ((registerAll [completeBackend, partialBackend]).selectBackend "auto" ⟨3⟩).toOption.map
    (·.descriptor.name) = some "test-complete" := by decide

end BackendRegistry
end Mksync
