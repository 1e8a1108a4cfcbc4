import Mathlib.Data.List.DropRight
import Muxx.Opens

/-!
# Naming

Device names are a root, a controller letter and a unit digit (muxx.h), and the
letter and the digit may be omitted. muxx_locate_pdev would strip them after it
has trimmed the name, but the trimming starts at the NUL and stops there, and so
what follows the name is never a digit:

* `located_iff`: exactly the names that are the root of the driver found, and
  those that no root begins with and no controller or unit completes, are
  answered as documented.
-/

namespace Muxx

open Run Fallible Prog

namespace Name

/-- The characters without the blanks at their end. -/
def trimmed (text : List BYTE) : List BYTE := text.rdropWhile (· = 0x20)

/-- The characters up to the first NUL. -/
def text (devname : Name) : List BYTE := (List.ofFn devname).takeWhile (· ≠ 0)

/-- The name a caller gives. -/
def given (devname : Name) : List BYTE := trimmed devname.text

/-- The name in a driver's descriptor. -/
def root (devname : Name) : List BYTE := trimmed (List.ofFn devname)

end Name

/-- What may follow the root in a device name. -/
structure Suffix where
  controller : Option (Fin 26) := none
  unit : Option (Fin 10) := none

namespace Suffix

def letter (i : Fin 26) : BYTE := 0x41 + BitVec.ofNat 8 i

def digit (i : Fin 10) : BYTE := 0x30 + BitVec.ofNat 8 i

def text (s : Suffix) : List BYTE := (s.controller.map letter).toList ++ (s.unit.map digit).toList

/-- The first controller and the first unit when omitted. -/
def controllerValue (s : Suffix) : BYTE := (s.controller.map (BitVec.ofNat 8 ·)).getD 0

def unitValue (s : Suffix) : BYTE := (s.unit.map (BitVec.ofNat 8 ·)).getD 0

theorem not_blank {s : Suffix} {c : BYTE} (h : c ∈ s.text) : c ≠ 0x20 := by
  obtain ⟨controller, unit⟩ := s
  have letters : ∀ i, letter i ≠ 0x20 := by decide
  have digits : ∀ i, digit i ≠ 0x20 := by decide
  simp only [text, List.mem_append, Option.mem_toList, Option.map_eq_some_iff] at h
  obtain ⟨i, -, rfl⟩ | ⟨i, -, rfl⟩ := h
  · exact letters i
  · exact digits i

end Suffix

/-- The name is that of a unit of a registered driver. -/
structure Denotes (drvcbt : Fin maxDrv → DRVCB) (devname : Name) (d : Fin maxDrv) (s : Suffix) :
    Prop where
  registered : (drvcbt d).free = false
  given : devname.given ≠ []
  name : devname.given = (drvcbt d).desc.devname.root ++ s.text

/-- muxx_locate_dev answers `rc` with the kernel `k'` as muxx.h has it. -/
structure AsDocumented (k : Kernel) (devname : Name) (io : Fin iotSentries) (rc : Int)
    (k' : Kernel) : Prop where
  found : rc = eok ↔ ∃ d s, Denotes k.drvcbt devname d s
  entry : rc = eok → ∃ d s, Denotes k.drvcbt devname d s ∧
    k' = k.modifyIote io
      ({ · with driver := d, controller := s.controllerValue, unit := s.unitValue })
  missing : rc ≠ eok → rc = enotfound ∧ k' = k

/-- A registered driver whose root, with its blanks, begins with the name. -/
def Begins (drvcbt : Fin maxDrv → DRVCB) (devname : Name) (d : Fin maxDrv) : Prop :=
  (drvcbt d).free = false ∧ devname.text <+: List.ofFn (drvcbt d).desc.devname

/-- The name is the root of the first driver whose root begins with it. When
there is none, the name is not a root with a controller or a unit either. -/
structure NoSuffix (drvcbt : Fin maxDrv → DRVCB) (devname : Name) : Prop where
  first : ∀ d, Begins drvcbt devname d → (∀ j < d, ¬ Begins drvcbt devname j) →
    devname.given ≠ [] ∧ devname.given = (drvcbt d).desc.devname.root
  none : (∀ d, ¬ Begins drvcbt devname d) → ∀ (d : Fin maxDrv) (s : Suffix),
    (drvcbt d).free = false → s.text ≠ [] →
    devname.given ≠ (drvcbt d).desc.devname.root ++ s.text

section Trimmed
variable {a b : List BYTE}

theorem trimmed_blanks (a : List BYTE) : ∃ n, a = Name.trimmed a ++ List.replicate n 0x20 := by
  have all : ∀ c ∈ a.rtakeWhile (· = (0x20 : BYTE)), c = 0x20 := by
    intro c h
    have blank := List.mem_rtakeWhile_imp h
    exact of_decide_eq_true blank
  refine ⟨(a.rtakeWhile (· = (0x20 : BYTE))).length, ?_⟩
  rw [← List.eq_replicate_of_mem all]
  exact (List.rdropWhile_append_rtakeWhile ..).symm

theorem prefix_of_trimmed (same : Name.trimmed a = Name.trimmed b) (short : a.length ≤ b.length) :
    a <+: b := by
  obtain ⟨m, ha⟩ := trimmed_blanks a
  obtain ⟨n, hb⟩ := trimmed_blanks b
  rw [ha, hb, same] at short ⊢
  simp only [List.length_append, List.length_replicate] at short
  rw [List.prefix_append_right_inj, List.prefix_replicate_iff]
  exact ⟨by simpa using short, by simp⟩

/-- What follows the blanks' root in a name that the root begins with is blank. -/
theorem suffix_nil {s : Suffix} (h : a <+: b) (same : Name.trimmed a = Name.trimmed b ++ s.text) :
    s.text = [] := by
  obtain ⟨n, hb⟩ := trimmed_blanks b
  have within : Name.trimmed b ++ s.text <+: Name.trimmed b ++ List.replicate n 0x20 := by
    rw [← same, ← hb]
    exact (List.rdropWhile_prefix ..).trans h
  rw [List.prefix_append_right_inj, List.prefix_replicate_iff] at within
  cases rest : s.text with
  | nil => rfl
  | cons c cs =>
    have blank : c = 0x20 := by
      have eq := within.2
      rw [rest, List.length_cons, List.replicate_succ] at eq
      exact (List.cons.inj eq).1
    exact absurd blank (Suffix.not_blank (s := s) (rest ▸ List.mem_cons_self))

end Trimmed

section Located
variable {drvcbt : Fin maxDrv → DRVCB} {devname : Name} {d : Fin maxDrv} {s : Suffix}
  {v : Located} {k k' : Kernel} {io : Fin iotSentries} {rc : Int}

theorem text_take (devname : Name) :
    devname.text = (List.ofFn devname).take (strlen devname) := by
  rw [Name.text, List.takeWhile_eq_take_findIdx_not, strlen]
  simp only [ne_eq, decide_not, Bool.not_not]

theorem memcmp_text {devname root : Name} :
    memcmp devname root (strlen devname) = true ↔ devname.text <+: List.ofFn root := by
  have short : strlen devname ≤ 8 := List.findIdx_le_length.trans (List.length_ofFn ..).le
  rw [text_take, List.prefix_iff_eq_take, List.length_take, List.length_ofFn, min_eq_left short]
  simp only [memcmp, Bool.and_eq_true, decide_eq_true_eq, Int.natCast_nonneg, true_and,
    Int.ofNat_lt]
  constructor
  · intro same
    apply List.ext_getElem (by simp)
    intro i h _
    simp only [List.length_take, List.length_ofFn, lt_min_iff] at h
    rw [List.getElem_take, List.getElem_take, List.getElem_ofFn, List.getElem_ofFn]
    exact same ⟨i, h.2⟩ h.1
  · intro same i h
    have eq := congrArg (·[i.val]?) same
    rw [List.getElem?_take_of_lt h, List.getElem?_take_of_lt h, List.getElem?_ofFn,
      List.getElem?_ofFn, dif_pos i.isLt, dif_pos i.isLt] at eq
    exact Option.some.inj eq

theorem passed_iff : (!(drvcbt d).free &&
    memcmp devname (drvcbt d).desc.devname (strlen devname)) = true ↔ Begins drvcbt devname d := by
  rw [Bool.and_eq_true, Bool.not_eq_true', memcmp_text, Begins]

theorem locatePdev_some (found : locatePdev drvcbt devname = some (d, v)) :
    v = { l := strlen devname } ∧ Begins drvcbt devname d ∧
      ∀ j < d, ¬ Begins drvcbt devname j := by
  rw [locatePdev_root] at found
  obtain ⟨i, first, same⟩ := Option.map_eq_some_iff.mp found
  cases same
  obtain ⟨passed, n, h, here, before⟩ := List.find?_eq_some_iff_getElem.mp first
  rw [List.getElem_finRange] at here
  refine ⟨rfl, passed_iff.mp passed, ?_⟩
  intro j less begins
  have index : j.val < n := by
    have := congrArg Fin.val here
    simp only [Fin.val_cast] at this
    omega
  have skipped := before j.val index
  rw [List.getElem_finRange] at skipped
  rw [Bool.not_eq_true', ← Bool.not_eq_true] at skipped
  exact skipped (passed_iff.mpr begins)

theorem locatePdev_none (missing : locatePdev drvcbt devname = none) (d : Fin maxDrv) :
    ¬ Begins drvcbt devname d := by
  rw [locatePdev_root, Option.map_eq_none_iff, List.find?_eq_none] at missing
  intro begins
  exact missing d (List.mem_finRange d) (passed_iff.mpr begins)

/-- A driver whose root begins with the name is denoted by it without a suffix. -/
theorem denotes_begins (begins : Begins drvcbt devname d) : (∃ s, Denotes drvcbt devname d s) ↔
    devname.given ≠ [] ∧ devname.given = (drvcbt d).desc.devname.root := by
  constructor
  · rintro ⟨s, h⟩
    have whole := h.name
    rw [suffix_nil begins.2 h.name, List.append_nil] at whole
    exact ⟨h.given, whole⟩
  · rintro ⟨given, whole⟩
    exact ⟨{}, begins.1, given, by rw [whole]; exact (List.append_nil _).symm⟩

/-- A name without suffix begins its driver's root. -/
theorem begins_denoted (h : Denotes drvcbt devname d s) (plain : s.text = []) :
    Begins drvcbt devname d := by
  refine ⟨h.registered, prefix_of_trimmed ?_ ?_⟩
  · have whole := h.name
    rwa [plain, List.append_nil] at whole
  · rw [text_take, List.length_take, List.length_ofFn, List.length_ofFn]
    exact min_le_right _ _

/-- A suffix that is empty asks for the first controller and unit. -/
theorem plain_values (plain : s.text = []) : s.controllerValue = 0 ∧ s.unitValue = 0 := by
  obtain ⟨_ | controller, _ | unit⟩ := s
  · exact ⟨rfl, rfl⟩
  · cases plain
  · cases plain
  · cases plain

theorem run_locateDev : run (locateDev devname io) k = .ok (match locatePdev k.drvcbt devname with
    | some (d, v) =>
      (eok, k.modifyIote io ({ · with driver := d, controller := v.controller, unit := v.unit }))
    | none => (enotfound, k)) :=
  rfl

/-- A driver has been found: it is right when its root is the name. -/
theorem documented_found (found : locatePdev k.drvcbt devname = some (d, v)) :
    (∃ rc k', run (locateDev devname io) k = .ok (rc, k') ∧ AsDocumented k devname io rc k') ↔
      devname.given ≠ [] ∧ devname.given = (k.drvcbt d).desc.devname.root := by
  obtain ⟨rfl, begins, -⟩ := locatePdev_some found
  have ran : run (locateDev devname io) k = .ok (eok, k.modifyIote io
      ({ · with driver := d, controller := 0, unit := 0 })) := by rw [run_locateDev, found]
  rw [← denotes_begins begins]
  constructor
  · rintro ⟨rc, k', same, h⟩
    obtain ⟨rfl, rfl⟩ := Prod.mk.inj (Except.ok.inj (ran.symm.trans same))
    obtain ⟨d', s, denotes, entry⟩ := h.entry rfl
    have driver := congrArg (fun k => (k.iott io).driver) entry
    simp only [Kernel.modifyIote, Function.update_self, Option.some.injEq] at driver
    exact ⟨s, driver ▸ denotes⟩
  · rintro ⟨s, denotes⟩
    have plain := suffix_nil begins.2 denotes.name
    obtain ⟨controller, unit⟩ := plain_values plain
    refine ⟨_, _, ran, iff_of_true rfl ⟨d, s, denotes⟩, ?_, fun wrong => absurd rfl wrong⟩
    intro _
    exact ⟨d, s, denotes, by rw [controller, unit]⟩

/-- None has been found: right when no suffix follows a root in the name. -/
theorem documented_missing (missing : locatePdev k.drvcbt devname = none) :
    (∃ rc k', run (locateDev devname io) k = .ok (rc, k') ∧ AsDocumented k devname io rc k') ↔
      ∀ d s, ¬ Denotes k.drvcbt devname d s := by
  have ran : run (locateDev devname io) k = .ok (enotfound, k) := by rw [run_locateDev, missing]
  constructor
  · rintro ⟨rc, k', same, h⟩ d s denotes
    obtain ⟨rfl, rfl⟩ := Prod.mk.inj (Except.ok.inj (ran.symm.trans same))
    cases h.found.mpr ⟨d, s, denotes⟩
  · intro unknown
    refine ⟨_, _, ran, iff_of_false (by decide) ?_, fun wrong => absurd wrong (by decide),
      fun _ => ⟨rfl, rfl⟩⟩
    rintro ⟨d, s, denotes⟩
    exact unknown d s denotes

end Located

/-- A name is looked up as muxx.h has it exactly when it is the root of the driver
that the search stops at, or when it has no driver, not even with a suffix. -/
theorem located_iff (k : Kernel) (devname : Name) (io : Fin iotSentries) :
    (∃ rc k', run (locateDev devname io) k = .ok (rc, k') ∧ AsDocumented k devname io rc k') ↔
      NoSuffix k.drvcbt devname := by
  cases search : locatePdev k.drvcbt devname with
  | some found =>
    obtain ⟨d, v⟩ := found
    obtain ⟨-, begins, before⟩ := locatePdev_some search
    rw [documented_found search]
    constructor
    · intro h
      refine ⟨?_, fun nowhere => absurd begins (nowhere d)⟩
      intro d' begins' before'
      obtain less | rfl | greater := lt_trichotomy d d'
      · exact absurd begins (before' d less)
      · exact h
      · exact absurd begins' (before d' greater)
    · intro h
      exact h.first d begins before
  | none =>
    have nowhere := locatePdev_none search
    rw [documented_missing search]
    constructor
    · intro unknown
      refine ⟨fun d begins => absurd begins (nowhere d), ?_⟩
      intro _ d s registered suffix name
      refine unknown d s ⟨registered, ?_, name⟩
      rw [name]
      intro empty
      exact suffix (List.append_eq_nil_iff.mp empty).2
    · intro h d s denotes
      by_cases plain : s.text = []
      · exact nowhere d (begins_denoted denotes plain)
      · exact h.none nowhere d s denotes.registered plain denotes.name

/-- `DKA0`, the first unit of the first controller. -/
def firstDisk : Name := ![0x44, 0x4B, 0x41, 0x30, 0, 0, 0, 0]

/-- The disk is registered and answers to `DK`, but not to `DKA0`. -/
theorem unit_not_located : run (locateDev firstDisk 0) oneDisk = .ok (enotfound, oneDisk) ∧
    ¬ ∃ rc k', run (locateDev firstDisk 0) oneDisk = .ok (rc, k') ∧
      AsDocumented oneDisk firstDisk 0 rc k' := by
  have missing : locatePdev oneDisk.drvcbt firstDisk = none := by decide +kernel
  refine ⟨by rw [run_locateDev, missing], ?_⟩
  rw [documented_missing missing]
  intro unknown
  have name : firstDisk.given = (oneDisk.drvcbt 0).desc.devname.root ++
      Suffix.text { controller := some 0, unit := some 0 } := by decide +kernel
  exact unknown 0 _ ⟨rfl, by decide +kernel, name⟩

end Muxx
