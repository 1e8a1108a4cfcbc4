import Mathlib.Tactic.IntervalCases
import Muxx.Bounds
import Muxx.Lib.Subroutines

/-!
# System calls as calls

The way in of `Muxx.Traps`, and the way back from the service to the task.

* `Conforms`: what gcc's convention asks of a routine, and what _syscall_rt and the
  handlers give when the service does;
* `trap_returns`: a trap is a call of its service;
* `call_returns`: so is a macro of MUXXMAC.s.
-/

namespace Muxx

open Pdp11

/-- Between the entry of a routine and its `rts`: r2 to r5 and the stack pointers
are kept, and the stack from behind its `args` bytes of parameters up to `top`. -/
structure Conforms (top : ADDRESS) (args : Nat) (c c' : Cpu Ram) : Prop where
  mode : userMode c'.psw = userMode c.psw
  r2 : c'.r2 = c.r2
  r3 : c'.r3 = c.r3
  r4 : c'.r4 = c.r4
  r5 : c'.r5 = c.r5
  ksp : c'.ksp = c.ksp
  usp : c'.usp = c.usp
  ret : c'.bus c.ksp = c.bus c.ksp
  callers : ∀ a : ADDRESS, c.ksp.toNat + 2 + args ≤ a.toNat → a.toNat < top.toNat →
    c'.bus a = c.bus a

namespace Linked
variable (sys : Linked) (service : ADDRESS → Cpu Ram → Cpu Ram → Prop)

/-- The function returns what _syscall_rt does. Its end restores r2 to r5 and the
stack pointer. -/
def SystrapHandler (c c' : Cpu Ram) : Prop :=
  ∃ c₁ c₂ c₃, sys.muxxSystrapHandler c = some c₁ ∧
    Returns syscallRt (fun _ => sys.afterService) service c₁ c₂ ∧
    c₂.pop = some (sys.afterSyscallRt, c₃) ∧
    c' = { c₃ with r2 := c.r2, r3 := c.r3, r4 := c.r4, r5 := c.r5, ksp := c.ksp }

def TrapHandle (c c' : Cpu Ram) : Prop :=
  Returns sys.muxxTrapHandle (fun _ => sys.afterSystrapHandler)
    (fun a c c' => a = sys.systrapHandler ∧ sys.SystrapHandler service c c') c c'

/-- A trap, up to the return to the instruction behind it. -/
def Traps (c c' : Cpu Ram) : Prop :=
  ∃ c₁ pc c₂, c.trap 0 sys.pc = some c₁ ∧
    Follows sys.muxxTrap (fun _ => sys.afterTrapHandle)
      (fun a c c' => a = sys.trapHandle ∧ sys.TrapHandle service c c') (0, c₁) (pc, c₂) ∧
    sys.muxxTrap[pc]? = some .rti ∧ c₂.rti = some (sys.pc, c')

end Linked

section Convention
variable {c c' d d' : Cpu Ram} {top : ADDRESS}

theorem pop_kernel (kernel : userMode c.psw = false) (even : c.ksp.toNat % 2 = 0) :
    c.pop = some (c.bus c.ksp, { c with ksp := c.ksp + 2 }) := by
  simp only [Cpu.pop, Cpu.get, Cpu.set, kernel, Bool.false_eq_true, if_false, read_ram even,
    Option.map_some]

/-- A call, with all that it leaves as it is. -/
theorem call_stacked (frame ret : WORD) (args : List WORD) (kernel : userMode c.psw = false)
    (even : (c.ksp - frame).toNat % 2 = 0)
    (room : frame.toNat + 2 * (args.length + 1) ≤ c.ksp.toNat) :
    ∃ m, c.call frame args ret = some { c with
        ksp := c.ksp - frame - BitVec.ofNat 16 (2 * (args.length + 1)), bus := m } ∧
      Stacked c.bus m (c.ksp - frame) (args.reverse ++ [ret]) := by
  have set : c.set .sp (c.get .sp - frame) = { c with ksp := c.ksp - frame } := by
    simp only [Cpu.get, Cpu.set, kernel, Bool.false_eq_true, if_false]
  have length : (args.reverse ++ [ret]).length = args.length + 1 := by
    rw [List.length_append, List.length_reverse, List.length_singleton]
  obtain ⟨m, ran, stacked⟩ := pushAll_stacked (args.reverse ++ [ret])
    (c := { c with ksp := c.ksp - frame }) kernel even (by rw [length]; bv_omega)
  refine ⟨m, ?_, stacked⟩
  rw [Cpu.call, set, ran, length]

end Convention

/-! ## The routines -/

/-- What a service finds: the frame pointer and the words behind it, and memory
as it was in `m` outside the stack between `d.ksp` and the frame below `top`. -/
structure AtService (top fp : ADDRESS) (parms : Nat → WORD) (m : Ram) (d : Cpu Ram) : Prop where
  fp : d.arg 0 = some fp
  parms : ∀ j < 6, d.arg (j + 1) = some (parms j)
  room : d.ksp.toNat + 24 < top.toNat
  same : ∀ a : ADDRESS, a.toNat < d.ksp.toNat ∨ top.toNat ≤ a.toNat + 24 → d.bus a = m a

section Routines
variable {sys : Linked} {service : ADDRESS → Cpu Ram → Cpu Ram → Prop} {c d d' : Cpu Ram}
variable {top ret : ADDRESS}

variable (service top ret) in
/-- _syscall_rt calls the service at its first parameter, and conforms where the
service does. -/
theorem syscallRt_returns (kernel : userMode c.psw = false) (even : c.ksp.toNat % 2 = 0)
    (room : 16 ≤ c.ksp.toNat) (below : c.ksp.toNat + 2 ≤ top.toNat)
    (conforms : ∀ d d', service (c.bus (c.ksp + 2#16)) d d' → Conforms top 14 d d') :
    ∃ d, d.ksp = c.ksp + 65520#16 ∧
      d.arg 0 = some (c.bus (c.ksp + 4#16)) ∧
      (∀ j < 6, d.arg (j + 1) = some (c.bus (c.ksp + 8#16 + BitVec.ofNat 16 (2 * j)))) ∧
      (∀ a : ADDRESS, a.toNat < d.ksp.toNat ∨ c.ksp.toNat ≤ a.toNat → d.bus a = c.bus a) ∧
      ∀ d', service (c.bus (c.ksp + 2#16)) d d' →
        ∃ c', Returns syscallRt (fun _ => ret) service c c' ∧ Conforms top 0 c c' ∧
          c'.r0 = d'.r0 ∧ c'.bus = d'.bus := by
  have slot (x : WORD) (shift : x.toNat % 2 = 0) : (c.ksp + x).toNat % 2 = 0 := by
    bv_omega
  have read (x : WORD) (shift : x.toNat % 2 = 0) (m : Ram) := read_ram (slot x shift) m
  have write (x : WORD) (shift : x.toNat % 2 = 0) (m : Ram) := write_ram (slot x shift) m
  obtain ⟨m, at_m⟩ : ∃ m, m = Function.update (Function.update (Function.update (Function.update
    (Function.update (Function.update (Function.update c.bus
      (c.ksp + 65534#16) (c.bus (c.ksp + 18#16))) (c.ksp + 65532#16) (c.bus (c.ksp + 16#16)))
      (c.ksp + 65530#16) (c.bus (c.ksp + 14#16))) (c.ksp + 65528#16) (c.bus (c.ksp + 12#16)))
      (c.ksp + 65526#16) (c.bus (c.ksp + 10#16))) (c.ksp + 65524#16) (c.bus (c.ksp + 8#16)))
      (c.ksp + 65522#16) (c.bus (c.ksp + 4#16)) := ⟨_, rfl⟩
  have ran : execAll (instrsAt syscallRt 0 9) c = some { c with
      r0 := c.ksp, r1 := c.bus (c.ksp + 2#16), ksp := c.ksp + 65522#16
      flags := c.flags.move (c.bus (c.ksp + 4#16)), bus := m } := by
    simp -implicitDefEqProofs [instrsAt, syscallRt, kernel, read, write, at_m, BitVec.add_assoc]
  have below' : c.ksp + 65522#16 + -2 = c.ksp + 65520#16 := by
    bv_omega
  have push := push_kernel (c := { c with
    r0 := c.ksp, r1 := c.bus (c.ksp + 2#16), ksp := c.ksp + 65522#16
    flags := c.flags.move (c.bus (c.ksp + 4#16)), bus := m }) kernel (slot _ (by decide)) ret
  rw [below'] at push
  obtain ⟨d, at_d⟩ : ∃ d : Cpu Ram, d = { c with
    r0 := c.ksp, r1 := c.bus (c.ksp + 2#16), ksp := c.ksp + 65520#16
    flags := c.flags.move (c.bus (c.ksp + 4#16))
    bus := Function.update m (c.ksp + 65520#16) ret } := ⟨_, rfl⟩
  have kernel' : userMode d.psw = false := at_d ▸ kernel
  have ksp : d.ksp = c.ksp + 65520#16 := by
    rw [at_d]
  have dEven : d.ksp.toNat % 2 = 0 := by
    rw [ksp]
    exact slot _ (by decide)
  have bus : d.bus = Function.update m (c.ksp + 65520#16) ret := by
    rw [at_d]
  have top_ret : d.bus (c.ksp + 65520#16) = ret := by
    rw [bus, Function.update_self]
  have same (a : ADDRESS) (outside : a.toNat < d.ksp.toNat ∨ c.ksp.toNat ≤ a.toNat) :
      d.bus a = c.bus a := by
    rw [ksp] at outside
    have apart (x : WORD) (low : 65520 ≤ x.toNat) : a ≠ c.ksp + x := by
      bv_omega
    rw [bus, Function.update_of_ne (apart _ (by decide)), at_m]
    iterate 7 rw [Function.update_of_ne (apart _ (by decide))]
  refine ⟨d, ksp, ?_, ?_, same, ?_⟩
  · rw [arg_ram kernel' dEven, at_d]
    simp [at_m, BitVec.add_assoc]
  · intro j few
    rw [arg_ram kernel' dEven, at_d]
    obtain rfl | rfl | rfl | rfl | rfl | rfl : j = 0 ∨ j = 1 ∨ j = 2 ∨ j = 3 ∨ j = 4 ∨ j = 5 := by
      omega
    all_goals simp [at_m, BitVec.add_assoc]
  · intro d' served
    have fine := conforms d d' served
    have still := fine.mode.trans kernel'
    have popped := pop_kernel still (fine.ksp ▸ dEven)
    rw [fine.ksp, fine.ret, ksp, top_ret] at popped
    obtain ⟨c', at_c'⟩ : ∃ c' : Cpu Ram, c' = { d' with
      ksp := c.ksp, flags := .sum 14 (c.ksp + 65522#16) } := ⟨_, rfl⟩
    have up : 14#16 + (c.ksp + 65522#16) = c.ksp := by
      bv_omega
    have tail : (Instr.add (.imm 14) (.reg .sp)).exec { d' with ksp := c.ksp + 65520#16 + 2 } =
        some c' := by
      simp [still, at_c', BitVec.add_assoc, up]
    have entry : Line.entry { c with
        r0 := c.ksp, r1 := c.bus (c.ksp + 2#16), ksp := c.ksp + 65522#16
        flags := c.flags.move (c.bus (c.ksp + 4#16)), bus := m } (.jsr (.deferred .r1)) =
          some (c.bus (c.ksp + 2#16)) := rfl
    have head : Reaches syscallRt (0, c) (9, _) := .straight rfl rfl ran
    have last : Reaches syscallRt (10, _) (11, c') := .one (step_instr rfl tail)
    have call : Follows syscallRt (fun _ => ret) service (9, _) (10, _) :=
      .call rfl entry push (at_d ▸ served) popped
    have back : Follows syscallRt (fun _ => ret) service (0, c) (11, c') :=
      head.follows.trans (call.trans last.follows)
    have kept (a : ADDRESS) (above : c.ksp.toNat ≤ a.toNat) (under : a.toNat < top.toNat) :
        d'.bus a = c.bus a := by
      rw [fine.callers a (by rw [ksp]; bv_omega) under, same a (.inr above)]
    refine ⟨c', ⟨11, back, rfl⟩, ?_, by rw [at_c'], by rw [at_c']⟩
    have r2 := fine.r2
    have r3 := fine.r3
    have r4 := fine.r4
    have r5 := fine.r5
    have usp := fine.usp
    rw [at_d] at r2 r3 r4 r5 usp
    subst at_c'
    exact ⟨still.trans kernel.symm, r2, r3, r4, r5, rfl, usp, kept _ le_rfl (by omega),
      fun a above under => kept a (by omega) under⟩

variable (sys) in
/-- The function calls _syscall_rt with the service of its number, the frame pointer
and six words. -/
theorem systrap_calls (kernel : userMode c.psw = false) (even : c.ksp.toNat % 2 = 0)
    (frameEven : sys.frame.toNat % 2 = 0) (room : sys.frame.toNat + 20 ≤ c.ksp.toNat) {e : SVC_S}
    (entry : trapTable[(c.bus (c.ksp + 2#16)).toNat]? = some e) :
    ∃ k m, k = c.ksp - sys.frame - 20#16 ∧
      sys.muxxSystrapHandler c = some { c with ksp := k, bus := m } ∧
      m k = sys.afterSyscallRt ∧ m (k + 2#16) = sys.link e.svc ∧
      m (k + 4#16) = c.bus (c.ksp + 4#16) ∧
      (∀ j < 6, m (k + 8#16 + BitVec.ofNat 16 (2 * j)) =
        c.bus (c.ksp + 6#16 + BitVec.ofNat 16 (2 * j))) ∧
      ∀ a : ADDRESS, a.toNat < k.toNat ∨ c.ksp.toNat ≤ a.toNat → m a = c.bus a := by
  have small : (c.bus (c.ksp + 2#16)).toNat < 40 := (List.getElem?_eq_some_iff.mp entry).1
  obtain ⟨positive, within⟩ := number_checked (by omega : (c.bus (c.ksp + 2#16)).toNat < 256)
  rw [decide_eq_false (by omega)] at within
  obtain ⟨w, at_w⟩ : ∃ w : Nat → WORD, ∀ i, c.bus (c.ksp + 2#16 + BitVec.ofNat 16 (2 * i)) = w i :=
    ⟨_, fun _ => rfl⟩
  have arg (i : Nat) : c.arg i = some (w i) := by
    rw [arg_ram kernel even, at_w]
  have number : c.bus (c.ksp + 2#16) = w 0 := by
    rw [← at_w 0]
    exact congrArg c.bus (BitVec.add_zero _).symm
  have fp : c.bus (c.ksp + 4#16) = w 1 := by
    rw [← at_w 1, BitVec.add_assoc]
    rfl
  have param (j : Nat) : c.bus (c.ksp + 6#16 + BitVec.ofNat 16 (2 * j)) = w (j + 2) := by
    have slot : c.ksp + 6#16 + BitVec.ofNat 16 (2 * j) =
        c.ksp + 2#16 + BitVec.ofNat 16 (2 * (j + 2)) := by
      bv_omega
    rw [slot, at_w]
  obtain ⟨ws, at_ws⟩ : ∃ ws, ws =
      [sys.link e.svc, w 1, e.nparams, w 2, w 3, w 4, w 5, w 6, w 7] := ⟨_, rfl⟩
  have length : ws.length = 9 := by
    rw [at_ws]
    rfl
  obtain ⟨m, called, stacked⟩ := call_stacked sys.frame sys.afterSyscallRt ws kernel
    (by bv_omega) (by rw [length]; omega)
  obtain ⟨k, at_k⟩ : ∃ k, k = c.ksp - sys.frame - 20#16 := ⟨_, rfl⟩
  rw [length, show BitVec.ofNat 16 (2 * (9 + 1)) = 20#16 from rfl, ← at_k] at called
  have handler : sys.muxxSystrapHandler c = some { c with ksp := k, bus := m } := by
    rw [number] at positive within entry
    simp -implicitDefEqProofs only [Linked.muxxSystrapHandler, arg, Option.bind_eq_bind,
      Option.bind_some, positive, within, entry, Bool.or_false]
    exact at_ws ▸ called
  obtain ⟨c₁, called', -, -, args⟩ := call_args sys.frame sys.afterSyscallRt ws kernel
    (by bv_omega) (by rw [length]; omega)
  obtain rfl := Option.some_inj.mp (called.symm.trans called')
  have pushed (i : Nat) (few : i < 9) : m (k + 2 + BitVec.ofNat 16 (2 * i)) =
      [sys.link e.svc, w 1, e.nparams, w 2, w 3, w 4, w 5, w 6, w 7][i] := by
    subst at_ws
    exact args i few
  refine ⟨k, m, at_k, handler, ?_, ?_, ?_, ?_, ?_⟩
  · have last := stacked.word ws.length (by simp)
    have slot : c.ksp - sys.frame - BitVec.ofNat 16 (2 * (ws.length + 1)) = k := by
      rw [length, at_k]
    rw [slot, List.getElem_append_right (by simp)] at last
    simpa using last
  · have first := pushed 0 (by decide)
    rwa [show k + 2 + BitVec.ofNat 16 (2 * 0) = k + 2#16 from BitVec.add_zero _] at first
  · have second := pushed 1 (by decide)
    rw [BitVec.add_assoc] at second
    exact second.trans fp.symm
  · intro j few
    have word := pushed (j + 3) (by omega)
    have slot : k + 2 + BitVec.ofNat 16 (2 * (j + 3)) = k + 8#16 + BitVec.ofNat 16 (2 * j) := by
      bv_omega
    rw [slot] at word
    rw [word, param]
    obtain rfl | rfl | rfl | rfl | rfl | rfl : j = 0 ∨ j = 1 ∨ j = 2 ∨ j = 3 ∨ j = 4 ∨ j = 5 := by
      omega
    all_goals rfl
  · intro a outside
    apply stacked.other
    rw [List.length_append, List.length_reverse, length, List.length_singleton]
    bv_omega

variable (sys service top) in
/-- The function calls the service of its number, and conforms where that does. -/
theorem systrap_returns (kernel : userMode c.psw = false) (even : c.ksp.toNat % 2 = 0)
    (frameEven : sys.frame.toNat % 2 = 0) (room : sys.frame.toNat + 36 ≤ c.ksp.toNat)
    (below : c.ksp.toNat + 2 ≤ top.toNat) {e : SVC_S}
    (entry : trapTable[(c.bus (c.ksp + 2#16)).toNat]? = some e)
    (conforms : ∀ d d', service (sys.link e.svc) d d' → Conforms top 14 d d') :
    ∃ d, d.ksp = c.ksp - sys.frame - 36#16 ∧
      d.arg 0 = some (c.bus (c.ksp + 4#16)) ∧
      (∀ j < 6, d.arg (j + 1) = some (c.bus (c.ksp + 6#16 + BitVec.ofNat 16 (2 * j)))) ∧
      (∀ a : ADDRESS, a.toNat < d.ksp.toNat ∨ c.ksp.toNat ≤ a.toNat → d.bus a = c.bus a) ∧
      ∀ d', service (sys.link e.svc) d d' →
        ∃ c', sys.SystrapHandler service c c' ∧ Conforms top 0 c c' ∧ c'.r0 = d'.r0 ∧
          c'.bus = d'.bus := by
  obtain ⟨k, m, at_k, handler, ret, svc, fp, param, kept⟩ :=
    systrap_calls sys kernel even frameEven (by omega) entry
  have kEven : k.toNat % 2 = 0 := by
    bv_omega
  obtain ⟨d, ksp, frame, parms, same, served⟩ := syscallRt_returns service top sys.afterService
    (c := { c with ksp := k, bus := m }) kernel kEven
    (by bv_omega) (by show k.toNat + 2 ≤ _; bv_omega)
    (by
      show ∀ d d', service (m (k + 2#16)) d d' → _
      rw [svc]
      exact conforms)
  have deepest : k + 65520#16 = c.ksp - sys.frame - 36#16 := by
    rw [at_k]
    bv_omega
  refine ⟨d, ksp.trans deepest, ?_, ?_, ?_, ?_⟩
  · rw [frame]
    exact congrArg some fp
  · intro j few
    rw [parms j few]
    exact congrArg some (param j few)
  · intro a outside
    rw [same a (by show _ ∨ k.toNat ≤ _; bv_omega)]
    exact kept a (by rw [ksp] at outside; bv_omega)
  · intro d' ran
    obtain ⟨c₂, returns, fine, r0, bus⟩ := served d' (by
      show service (m (k + 2#16)) d d'
      rwa [svc])
    have popped : c₂.pop = some (sys.afterSyscallRt, { c₂ with ksp := k + 2 }) := by
      have first := pop_kernel (fine.mode.trans kernel) (fine.ksp ▸ kEven)
      rw [fine.ksp, fine.ret] at first
      rw [first]
      exact congrArg (fun w => some (w, _)) ret
    have above (a : ADDRESS) (high : c.ksp.toNat ≤ a.toNat) (under : a.toNat < top.toNat) :
        c₂.bus a = c.bus a :=
      (fine.callers a (by show k.toNat + 2 + 0 ≤ _; bv_omega) under).trans (kept a (.inr high))
    exact ⟨_, ⟨_, c₂, _, handler, returns, popped, rfl⟩,
      ⟨fine.mode, rfl, rfl, rfl, rfl, rfl, fine.usp, above _ le_rfl (by omega),
        fun a high under => above a (by omega) under⟩, r0, bus⟩

/-- The words that the frame of a trap in `c` keeps below `k`. -/
structure Saved (sys : Linked) (c : Cpu Ram) (k : ADDRESS) (m : Ram) : Prop where
  status : m (k + 65534#16) = status c.psw c.flags
  pc : m (k + 65532#16) = sys.pc
  r2 : m (k + 65526#16) = c.r2
  r3 : m (k + 65524#16) = c.r3
  r4 : m (k + 65522#16) = c.r4
  r5 : m (k + 65520#16) = c.r5
  ret : m (k + 65516#16) = sys.afterTrapHandle
  own : m (k + 65512#16) = c.r5

theorem Saved.congr {c₁ : Cpu Ram} {k : ADDRESS} {m m' : Ram} (h : Saved sys c₁ k m)
    (room : 24 ≤ k.toNat)
    (same : ∀ a : ADDRESS, k.toNat ≤ a.toNat + 24 → a.toNat < k.toNat → m' a = m a) :
    Saved sys c₁ k m' := by
  have word (x : WORD) (high : 65512 ≤ x.toNat) : m' (k + x) = m (k + x) :=
    same _ (by bv_omega) (by bv_omega)
  constructor
  all_goals rw [word _ (by decide)]
  exacts [h.status, h.pc, h.r2, h.r3, h.r4, h.r5, h.ret, h.own]

theorem framed_saved (sys : Linked) (c : Cpu Ram) : Saved sys c c.ksp (sys.framed c) := by
  have apart (x y : WORD) (other : x ≠ y) : c.ksp + x ≠ c.ksp + y := by
    bv_omega
  constructor
  all_goals
    simp only [Linked.framed, handled, wrapped]
    repeat rw [Function.update_of_ne (apart _ _ (by decide))]
    rw [Function.update_self]

variable (sys) in
/-- At the call of muxx_systrap_handler, with the number and the frame pointer
below the parameters. -/
theorem handler_reaches {c₁ : Cpu Ram} {k : ADDRESS} (h : Handling sys c₁ c k)
    (even : k.toNat % 2 = 0) (pcEven : sys.pc.toNat % 2 = 0) (listEven : c.r0.toNat % 2 = 0)
    (room : 30 + 2 * (parmCount c).toNat ≤ k.toNat) :
    ∃ r0 f m, Reaches sys.muxxTrapHandle (16, c) (30, { c with
        r0 := r0, r1 := sys.trapNumber c, ksp := parmTop c + 65532#16, flags := f, bus := m }) ∧
      m (parmTop c + 65534#16) = k + 65518#16 ∧ m (parmTop c + 65532#16) = sys.trapNumber c ∧
      ∀ a : ADDRESS, (parmTop c).toNat ≤ a.toNat ∨ a.toNat + 4 < (parmTop c).toNat →
        m a = parmsPushed c a := by
  have spEven : c.ksp.toNat % 2 = 0 := by
    rw [h.ksp]
    bv_omega
  obtain ⟨r0, r1, f, pushes⟩ := handler_pushes sys h.kernel spEven listEven
  obtain ⟨sp, at_sp⟩ : ∃ sp, sp = parmTop c := ⟨_, rfl⟩
  have top : sp = k + 65512#16 - BitVec.ofNat 16 (2 * (parmCount c).toNat) := by
    rw [at_sp, parmTop, h.ksp]
  have frame (x : WORD) (above : 65512 ≤ x.toNat) : parmsPushed c (k + x) = c.bus (k + x) := by
    apply pushWords_other
    · rw [h.ksp]
      bv_omega
    · rw [h.ksp]
      bv_omega
  have fp : c.ksp + 6#16 = k + 65518#16 := by
    rw [h.ksp]
    bv_omega
  have clear : k + 65532#16 ≠ parmTop c + 65534#16 := by
    rw [← at_sp]
    bv_omega
  have number : sys.trapNumber c = 255#16 &&&
      Function.update (parmsPushed c) (parmTop c + 65534#16) (k + 65518#16) (sys.pc + 65534#16) := by
    rw [Linked.trapNumber, fp]
  obtain ⟨f', calls⟩ := @handler_calls sys { c with
      r0 := r0, r1 := r1, ksp := parmTop c, flags := f, bus := parmsPushed c }
    k h.kernel h.r5 even (by show (parmTop c).toNat % 2 = 0; rw [← at_sp]; bv_omega) pcEven
    ((frame _ (by decide)).trans h.fp) ((frame _ (by decide)).trans h.pc) clear _ number
  refine ⟨r0, f', _, pushes.trans calls, ?_, ?_, ?_⟩
  · show Function.update (Function.update _ (parmTop c + 65534#16) _) (parmTop c + 65532#16) _ _ = _
    rw [Function.update_of_ne (by bv_omega), Function.update_self]
  · exact Function.update_self ..
  · intro a outside
    rw [← at_sp] at outside
    have apart (x : WORD) (low : 65532 ≤ x.toNat) : a ≠ parmTop c + x := by
      rw [← at_sp]
      bv_omega
    show Function.update (Function.update _ (parmTop c + 65534#16) _) (parmTop c + 65532#16) _ a = _
    rw [Function.update_of_ne (apart _ (by decide)), Function.update_of_ne (apart _ (by decide))]

variable (sys) in
/-- muxx_systrap_handler is called with the number, the frame pointer and the words of the
list on the stack. -/
theorem handler_calls_function {c₁ : Cpu Ram} {k : ADDRESS} (h : Handling sys c₁ c k)
    (even : k.toNat % 2 = 0) (pcEven : sys.pc.toNat % 2 = 0) (listEven : c.r0.toNat % 2 = 0)
    (room : 30 + 2 * (parmCount c).toNat ≤ k.toNat) :
    ∃ r0 f m sp c₂, sp = k + 65506#16 - BitVec.ofNat 16 (2 * (parmCount c).toNat) ∧
      Reaches sys.muxxTrapHandle (16, c) (30, c₂) ∧
      c₂.push sys.afterSystrapHandler = some { c with
        r0 := r0, r1 := sys.trapNumber c, ksp := sp, flags := f, bus := m } ∧
      m sp = sys.afterSystrapHandler ∧ m (sp + 2#16) = sys.trapNumber c ∧
      m (sp + 4#16) = k + 65518#16 ∧
      (∀ j < 6, m (sp + 6#16 + BitVec.ofNat 16 (2 * j)) = parm c j) ∧
      ∀ a : ADDRESS, a.toNat < sp.toNat ∨ k.toNat ≤ a.toNat + 24 → m a = c.bus a := by
  obtain ⟨r0, f, m, onward, fp, number, pushed⟩ :=
    handler_reaches sys h even pcEven listEven room
  obtain ⟨num, at_num⟩ : ∃ num, num = sys.trapNumber c := ⟨_, rfl⟩
  rw [← at_num] at onward number ⊢
  obtain ⟨sp, at_sp⟩ : ∃ sp, sp = parmTop c := ⟨_, rfl⟩
  have top : sp = k + 65512#16 - BitVec.ofNat 16 (2 * (parmCount c).toNat) := by
    rw [at_sp, parmTop, h.ksp]
  rw [← at_sp] at onward fp number pushed
  have push := push_kernel (c := { c with
    r0 := r0, r1 := num, ksp := sp + 65532#16, flags := f, bus := m }) h.kernel
      (by show (sp + 65532#16).toNat % 2 = 0; bv_omega) sys.afterSystrapHandler
  have below : sp + 65532#16 + -2 = sp + 65530#16 := by
    bv_omega
  rw [below] at push
  have other (a : ADDRESS) (apart : a ≠ sp + 65530#16) :
      Function.update m (sp + 65530#16) sys.afterSystrapHandler a = m a :=
    Function.update_of_ne apart ..
  have listed (a : ADDRESS) (outside : a.toNat + 24 + 2 * (parmCount c).toNat < k.toNat ∨
      k.toNat ≤ a.toNat + 24) : parmsPushed c a = c.bus a := by
    apply pushWords_other
    · rw [h.ksp]
      bv_omega
    · rw [h.ksp]
      bv_omega
  refine ⟨r0, f, _, sp + 65530#16, _, by bv_omega, onward, push, Function.update_self .., ?_, ?_,
    ?_, ?_⟩
  · rw [BitVec.add_assoc, other _ (by bv_omega)]
    exact number
  · rw [BitVec.add_assoc, other _ (by bv_omega)]
    exact fp
  · intro j few
    have up : sp + 65530#16 + 6#16 + BitVec.ofNat 16 (2 * j) = sp + BitVec.ofNat 16 (2 * j) := by
      bv_omega
    rw [up, other _ (by bv_omega), pushed _ (.inl (by bv_omega)), parm, at_sp]
  · intro a outside
    rw [other a (by bv_omega), pushed a (by bv_omega), listed a (by bv_omega)]

variable (sys) in
/-- Behind the call the handler leaves its frame. -/
theorem handler_leaves {k : ADDRESS} (kernel : userMode c.psw = false)
    (r5 : c.r5 = k + 65512#16) (even : k.toNat % 2 = 0) :
    Reaches sys.muxxTrapHandle (31, c) (34, { c with
      r5 := c.bus (k + 65512#16), ksp := k + 65516#16, flags := .sum 2 (k + 65514#16) }) := by
  have own : (k + 65512#16).toNat % 2 = 0 := by
    bv_omega
  have up : 2#16 + (k + 65514#16) = k + 65516#16 := by
    bv_omega
  have text : instrsAt sys.muxxTrapHandle 31 3 = [.mov (.reg .r5) (.reg .sp),
    .mov (.inc .sp) (.reg .r5), .add (.imm 2) (.reg .sp)] := rfl
  have ran : execAll (instrsAt sys.muxxTrapHandle 31 3) c = some { c with
      r5 := c.bus (k + 65512#16), ksp := k + 65516#16, flags := .sum 2 (k + 65514#16) } := by
    rw [text]
    simp -implicitDefEqProofs [kernel, r5, read_ram own, BitVec.add_assoc, up]
  exact .straight rfl rfl ran

/-- The handler calls the service with the parameters of the list, and returns with
the frame of the trap as it was. -/
theorem handle_returns {c₀ c₁ : Cpu Ram} {k : ADDRESS}
    (reaches : Reaches sys.muxxTrapHandle (0, c₀) (16, c)) (h : Handling sys c₁ c k)
    (even : k.toNat % 2 = 0) (pcEven : sys.pc.toNat % 2 = 0) (frameEven : sys.frame.toNat % 2 = 0)
    (listEven : c.r0.toNat % 2 = 0)
    (room : sys.frame.toNat + 66 + 2 * (parmCount c).toNat ≤ k.toNat) {e : SVC_S}
    (entry : trapTable[(sys.trapNumber c).toNat]? = some e)
    (conforms : ∀ d d', service (sys.link e.svc) d d' → Conforms k 14 d d') :
    ∃ d, AtService k (k + 65518#16) (parm c) c.bus d ∧
      ∀ d', service (sys.link e.svc) d d' → ∃ c', sys.TrapHandle service c₀ c' ∧
        userMode c'.psw = false ∧ c'.ksp = k + 65516#16 ∧ c'.usp = c.usp ∧ c'.r0 = d'.r0 ∧
        c'.bus = d'.bus ∧
        ∀ a : ADDRESS, k.toNat ≤ a.toNat + 24 → a.toNat < k.toNat → c'.bus a = c.bus a := by
  obtain ⟨r0, f, m, sp, c₂, at_sp, onward, push, atRet, atNumber, atFp, atParm, same⟩ :=
    handler_calls_function sys h even pcEven listEven (by omega)
  have number : trapTable[(m (sp + 2#16)).toNat]? = some e := by
    rw [atNumber]
    exact entry
  obtain ⟨d, ksp, frame, parms, same', served⟩ := systrap_returns sys service k
    (c := { c with r0 := r0, r1 := sys.trapNumber c, ksp := sp, flags := f, bus := m })
    h.kernel (by show sp.toNat % 2 = 0; bv_omega) frameEven (by show _ ≤ sp.toNat; bv_omega)
    (by show sp.toNat + 2 ≤ _; bv_omega) (e := e) number conforms
  have under : d.ksp.toNat + 36 ≤ sp.toNat ∧ sp.toNat + 30 ≤ k.toNat := by
    rw [ksp]
    show (sp - sys.frame - 36#16).toNat + 36 ≤ _ ∧ _
    bv_omega
  refine ⟨d, ⟨?_, ?_, by omega, ?_⟩, ?_⟩
  · rw [frame]
    exact congrArg some atFp
  · intro j few
    rw [parms j few]
    exact congrArg some (atParm j few)
  · intro a outside
    rw [same' a (by show _ ∨ sp.toNat ≤ _; omega)]
    exact same a (by omega)
  · intro d' ran
    obtain ⟨c₄, function, fine, result, bus⟩ := served d' ran
    have kernel : userMode c₄.psw = false := fine.mode.trans h.kernel
    have r5 : c₄.r5 = k + 65512#16 := fine.r5.trans h.r5
    have kept (a : ADDRESS) (high : k.toNat ≤ a.toNat + 24) (inside : a.toNat < k.toNat) :
        c₄.bus a = c.bus a :=
      (fine.callers a (by show sp.toNat + 2 + 0 ≤ _; omega) inside).trans (same a (.inr high))
    have popped : c₄.pop = some (sys.afterSystrapHandler, { c₄ with ksp := sp + 2 }) := by
      have first := pop_kernel kernel (by rw [fine.ksp]; show sp.toNat % 2 = 0; bv_omega)
      have ret : c₄.bus sp = sys.afterSystrapHandler := fine.ret.trans atRet
      rw [fine.ksp] at first
      rw [first]
      exact congrArg (fun w => some (w, _)) ret
    have last := handler_leaves sys (c := { c₄ with ksp := sp + 2 }) kernel r5 even
    have call : Follows sys.muxxTrapHandle (fun _ => sys.afterSystrapHandler)
        (fun a c c' => a = sys.systrapHandler ∧ sys.SystrapHandler service c c') (30, c₂) (31, _) :=
      .call rfl rfl push ⟨rfl, function⟩ popped
    exact ⟨_, ⟨34, (reaches.trans onward).follows.trans (call.trans last.follows), rfl⟩, kernel,
      rfl, fine.usp, result, bus, kept⟩

variable (sys) in
/-- The test for a parameter list, with all that a trap has changed before it. -/
theorem trapped_at (user : userMode c.psw = true) (even : c.ksp.toNat % 2 = 0)
    (cur : sys.curtcb.toNat % 2 = 0) :
    ∃ r1 r2 f, Trapped sys c { c with
      psw := 0x3000#16, r1 := r1, r2 := r2, r5 := c.ksp + 65512#16, ksp := c.ksp + 65512#16
      flags := f, bus := sys.framed c } := by
  have kernel : userMode 12288#16 = false := by decide
  have apart : c.ksp + 65518#16 ≠ c.ksp + 65516#16 := by
    bv_omega
  have slot : (c.ksp + 65518#16).toNat % 2 = 0 := by
    bv_omega
  have top : c.ksp + 65518#16 + -2 = c.ksp + 65516#16 := by
    bv_omega
  have trap := trap_user user even sys.pc
  obtain ⟨m₂, at_m₂⟩ : ∃ m₂, m₂ = Function.update (Function.update c.bus (c.ksp + 65534#16)
    (status c.psw c.flags)) (c.ksp + 65532#16) sys.pc := ⟨_, rfl⟩
  rw [← at_m₂] at trap
  obtain ⟨f₃, wrapper⟩ := wrapper_runs sys (c := { c with
    psw := 0x3000#16, flags := {}, ksp := c.ksp + 65532#16, bus := m₂ }) kernel even rfl
  obtain ⟨m₃, at_m₃⟩ : ∃ m₃, m₃ = wrapped { c with
    psw := 0x3000#16, flags := {}, ksp := c.ksp + 65532#16, bus := m₂ } c.ksp := ⟨_, rfl⟩
  rw [← at_m₃] at wrapper
  have push := push_kernel (c := { c with
    psw := 0x3000#16, ksp := c.ksp + 65518#16, flags := f₃, bus := m₃ }) kernel slot
      sys.afterTrapHandle
  rw [top] at push
  obtain ⟨m₄, at_m₄⟩ : ∃ m₄, m₄ = Function.update m₃ (c.ksp + 65516#16) sys.afterTrapHandle :=
    ⟨_, rfl⟩
  rw [← at_m₄] at push
  have fp : m₄ (c.ksp + 65518#16) = c.ksp + 65518#16 := by
    rw [at_m₄, Function.update_of_ne apart, at_m₃, wrapped, Function.update_self]
  obtain ⟨r1, r2, f, handler⟩ := handler_enters (c := { c with
    psw := 0x3000#16, ksp := c.ksp + 65516#16, flags := f₃, bus := m₄ }) kernel rfl even cur rfl fp
  have framed : handled m₄ c.ksp c.r0 c.r5 = sys.framed c := by
    simp only [at_m₄, at_m₃, at_m₂, Linked.framed, wrapped]
  exact ⟨r1, r2, f, _, _, _, trap, wrapper, push, framed ▸ handler⟩

theorem muxxTrap_jsr {pc : Nat} {a : Operand} (there : sys.muxxTrap[pc]? = some (.jsr a)) :
    pc = 7 := by
  have length : sys.muxxTrap.length = 15 := rfl
  have within : pc < sys.muxxTrap.length := (List.getElem?_eq_some_iff.mp there).1
  rw [length] at within
  interval_cases pc <;> first | rfl | cases there

theorem ofWord_status (psw : WORD) (f : Flags) : Flags.ofWord (status psw f) = f := by
  obtain ⟨n, z, v, c⟩ := f
  simp only [Flags.ofWord, status]
  cases n <;> cases z <;> cases v <;> cases c <;> simp [Flags.toWord]

end Routines

/-! ## Traps -/

/-- A task traps with a number of the table. Its parameter list, if there is one,
and the instruction are clear of the kernel stack. -/
structure AtListTrap (sys : Linked) (c : Cpu Ram) (ws : List WORD) (e : SVC_S) : Prop where
  user : userMode c.psw = true
  kspEven : c.ksp.toNat % 2 = 0
  pcEven : sys.pc.toNat % 2 = 0
  curEven : sys.curtcb.toNat % 2 = 0
  frameEven : sys.frame.toNat % 2 = 0
  listEven : c.r0.toNat % 2 = 0
  few : ws.length ≤ 6
  room : sys.frame.toNat + 66 + 2 * ws.length ≤ c.ksp.toNat
  list : (c.r0 = 0 ∧ ws = []) ∨ (c.r0 ≠ 0 ∧ c.bus c.r0 = BitVec.ofNat 16 ws.length ∧
    ∀ i (within : i < ws.length), c.bus (c.r0 + 2#16 + BitVec.ofNat 16 (2 * i)) = ws[i])
  clear : ∀ i ≤ ws.length, (c.r0 + BitVec.ofNat 16 (2 * i)).toNat + 26 + 2 * ws.length < c.ksp.toNat ∨
    c.ksp.toNat ≤ (c.r0 + BitVec.ofNat 16 (2 * i)).toNat
  text : (sys.pc + 65534#16).toNat + 26 + 2 * ws.length < c.ksp.toNat ∨
    c.ksp.toNat ≤ (sys.pc + 65534#16).toNat
  entry : trapTable[(255#16 &&& c.bus (sys.pc + 65534#16)).toNat]? = some e

/-- Registers and stacks are as they were in `c`, r0 has the result of the service,
which ended in `d`, and memory is as the service left it. -/
structure Finished (c d c' : Cpu Ram) : Prop where
  r0 : c'.r0 = d.r0
  r2 : c'.r2 = c.r2
  r3 : c'.r3 = c.r3
  r4 : c'.r4 = c.r4
  r5 : c'.r5 = c.r5
  usp : c'.usp = c.usp
  ksp : c'.ksp = c.ksp
  bus : c'.bus = d.bus

/-- The task goes on behind a trap. -/
structure Continued (c d c' : Cpu Ram) : Prop extends Finished c d c' where
  psw : c'.psw = status c.psw c.flags
  flags : c'.flags = c.flags

/-- A trap in `c` enters the service at `svc` with the frame pointer and the words
`ws`, the last one first, and with no more changed than the kernel stack. From
whatever state the service ends in, the task goes on. -/
def Linked.TrapServed (sys : Linked) (service : ADDRESS → Cpu Ram → Cpu Ram → Prop)
    (svc : ADDRESS) (ws : List WORD) (c : Cpu Ram) : Prop :=
  ∃ d, d.arg 0 = some (c.ksp + 65518#16) ∧
    (∀ j (within : j < ws.length), d.arg (j + 1) = .some (ws[ws.length - 1 - j])) ∧
    Saved sys c c.ksp d.bus ∧
    (∀ a : ADDRESS, a.toNat < d.ksp.toNat ∨ c.ksp.toNat ≤ a.toNat → d.bus a = c.bus a) ∧
    ∀ d', service svc d d' → ∃ c', sys.Traps service c c' ∧ Continued c d' c'

section Traps
variable {sys : Linked} {service : ADDRESS → Cpu Ram → Cpu Ram → Prop} {c c₁ : Cpu Ram}
variable {ws : List WORD} {e : SVC_S}

/-- What is left of a list when the handler gets to it. -/
theorem AtListTrap.listed (h : AtListTrap sys c ws e) (r0 : c₁.r0 = c.r0)
    (ksp : c₁.ksp = c.ksp + 65512#16) (kept : Kept c.ksp 24 c.bus c₁.bus) :
    (parmCount c₁).toNat = ws.length ∧
      (∀ j (within : j < ws.length), parm c₁ j = ws[ws.length - 1 - j]) ∧
      sys.trapNumber c₁ = 255#16 &&& c.bus (sys.pc + 65534#16) := by
  have room := h.room
  have few := h.few
  have text := h.text
  have count : (parmCount c₁).toNat = ws.length := by
    rw [parmCount, r0]
    rcases h.list with ⟨null, rfl⟩ | ⟨list, length, -⟩
    · rw [if_pos null]
      rfl
    · have first := h.clear 0 (Nat.zero_le _)
      rw [show c.r0 + BitVec.ofNat 16 (2 * 0) = c.r0 from BitVec.add_zero _] at first
      rw [if_neg list, kept _ (by omega), length, BitVec.toNat_ofNat, Nat.mod_eq_of_lt (by omega)]
  have top : parmTop c₁ = c.ksp + 65512#16 - BitVec.ofNat 16 (2 * ws.length) := by
    rw [parmTop, ksp, count]
  refine ⟨count, ?_, ?_⟩
  · intro j within
    rcases h.list with ⟨-, rfl⟩ | ⟨-, -, word⟩
    · exact absurd within (Nat.not_lt_zero j)
    have slot (i : Nat) : c.r0 + 2#16 + BitVec.ofNat 16 (2 * i) =
        c.r0 + BitVec.ofNat 16 (2 * (i + 1)) := by
      bv_omega
    have clear : Clear c₁.bus (c₁.r0 + 2) (c.ksp + 65512#16) ws := by
      rw [r0]
      constructor
      · bv_omega
      · intro i before
        have apart := h.clear (i + 1) before
        rw [← slot] at apart
        rw [← word i before]
        exact kept (c.r0 + 2#16 + BitVec.ofNat 16 (2 * i)) (by omega)
      · intro i before
        have apart := h.clear (i + 1) before
        rw [← slot] at apart
        bv_omega
    have stacked := pushWords_stacked clear
    have at_parm : c.ksp + 65512#16 - BitVec.ofNat 16 (2 * ws.length) + BitVec.ofNat 16 (2 * j) =
        c.ksp + 65512#16 - BitVec.ofNat 16 (2 * (ws.length - 1 - j + 1)) := by
      bv_omega
    rw [parm, parmsPushed, top, count, ksp, at_parm, stacked.word _ (by omega)]
  · have apart : sys.pc + 65534#16 ≠ parmTop c₁ + 65534#16 := by
      rw [top]
      bv_omega
    have clear : parmsPushed c₁ (sys.pc + 65534#16) = c₁.bus (sys.pc + 65534#16) := by
      apply pushWords_other
      · rw [ksp]
        bv_omega
      · rw [ksp]
        bv_omega
    rw [Linked.trapNumber, Function.update_of_ne apart, clear, kept _ (by omega)]

/-- A trap with a number of the table is a call of its service. -/
theorem trap_returns (h : AtListTrap sys c ws e)
    (conforms : ∀ d d', service (sys.link e.svc) d d' → Conforms c.ksp 14 d d') :
    sys.TrapServed service (sys.link e.svc) ws c := by
  have even := h.kspEven
  have room := h.room
  have few := h.few
  obtain ⟨c₁, -, handling, framed⟩ :=
    trapped_handling sys h.user rfl even (by omega) h.curEven
  obtain ⟨r1, r2, f, c₂, c₃, c₄, trap, ⟨pc, wrapper, there⟩, push, reaches⟩ :=
    trapped_at sys h.user even h.curEven
  obtain rfl := muxxTrap_jsr there
  have kept : Kept c.ksp 24 c.bus (sys.framed c) := framed ▸ handling.kept
  obtain ⟨c₅, at_c₅⟩ : ∃ c₅ : Cpu Ram, c₅ = { c with
    psw := 0x3000#16, r1 := r1, r2 := r2, r5 := c.ksp + 65512#16, ksp := c.ksp + 65512#16
    flags := f, bus := sys.framed c } := ⟨_, rfl⟩
  have bus : c₅.bus = sys.framed c := by
    rw [at_c₅]
  rw [← at_c₅] at reaches
  have handling' : Handling sys c c₅ c.ksp := by
    subst at_c₅
    exact ⟨(by decide : userMode 12288#16 = false), rfl, rfl, rfl, framed ▸ handling.fp,
      framed ▸ handling.pc, kept⟩
  obtain ⟨count, parms, number⟩ := h.listed handling'.r0 handling'.ksp (bus ▸ kept)
  obtain ⟨d, service', returns⟩ := handle_returns reaches handling' even h.pcEven h.frameEven
    (handling'.r0 ▸ h.listEven) (by omega) (number ▸ h.entry) conforms
  have before := framed_saved sys c
  rw [← bus] at before
  have saved : Saved sys c c.ksp d.bus := before.congr (by omega) fun a high _ =>
    service'.same a (.inr high)
  refine ⟨d, service'.fp, ?_, saved, ?_, ?_⟩
  · intro j within
    rw [service'.parms j (by omega), parms j within]
  · intro a outside
    have under := service'.room
    rw [service'.same a (by omega), bus, kept a (by omega)]
  · intro d' ran
    obtain ⟨c₆, handle, kernel, ksp, usp, r0, bus', same⟩ := returns d' ran
    have frame : Saved sys c c.ksp c₆.bus := before.congr (by omega) same
    have slot (x : WORD) (shift : x.toNat % 2 = 0) : (c.ksp + x).toNat % 2 = 0 := by
      bv_omega
    have read (x : WORD) (shift : x.toNat % 2 = 0) (m : Ram) := read_ram (slot x shift) m
    have popped : c₆.pop = some (sys.afterTrapHandle, { c₆ with ksp := c.ksp + 65518#16 }) := by
      rw [pop_kernel kernel (ksp ▸ slot _ (by decide)), ksp, frame.ret, BitVec.add_assoc]
      rfl
    obtain ⟨c₇, at_c₇⟩ : ∃ c₇ : Cpu Ram, c₇ = { c₆ with
      r2 := c.r2, r3 := c.r3, r4 := c.r4, r5 := c.r5, ksp := c.ksp + 65532#16
      flags := .sum 4 (c.ksp + 65528#16) } := ⟨_, rfl⟩
    have up : 2#16 + (c.ksp + 65518#16) = c.ksp + 65520#16 ∧
        4#16 + (c.ksp + 65528#16) = c.ksp + 65532#16 := by
      bv_omega
    have tail : execAll (instrsAt sys.muxxTrap 8 6) { c₆ with ksp := c.ksp + 65518#16 } =
        some c₇ := by
      have text : instrsAt sys.muxxTrap 8 6 = [.add (.imm 2) (.reg .sp),
        .mov (.inc .sp) (.reg .r5), .mov (.inc .sp) (.reg .r4), .mov (.inc .sp) (.reg .r3),
        .mov (.inc .sp) (.reg .r2), .add (.imm 4) (.reg .sp)] := rfl
      rw [text]
      simp -implicitDefEqProofs [kernel, read, frame.r2, frame.r3, frame.r4, frame.r5,
        BitVec.add_assoc, at_c₇, up]
    have pop (x : WORD) (shift : x.toNat % 2 = 0) := pop_kernel (c := { c₇ with ksp := c.ksp + x })
      (at_c₇ ▸ kernel) (slot x shift)
    have first : c₇.pop = some (sys.pc, { c₇ with ksp := c.ksp + 65534#16 }) := by
      have here := pop 65532#16 (by decide)
      subst at_c₇
      rw [here]
      show some (c₆.bus (c.ksp + 65532#16), _) = _
      rw [frame.pc, BitVec.add_assoc]
      rfl
    have second : ({ c₇ with ksp := c.ksp + 65534#16 } : Cpu Ram).pop =
        some (status c.psw c.flags, { c₇ with ksp := c.ksp }) := by
      have here := pop 65534#16 (by decide)
      subst at_c₇
      rw [here]
      show some (c₆.bus (c.ksp + 65534#16), _) = _
      rw [frame.status, BitVec.add_assoc]
      exact congrArg (fun w => some (status c.psw c.flags, { c₆ with
        r2 := c.r2, r3 := c.r3, r4 := c.r4, r5 := c.r5, ksp := w
        flags := .sum 4 (c.ksp + 65528#16) })) (BitVec.add_zero c.ksp)
    have back : c₇.rti = some (sys.pc, ({ c₇ with ksp := c.ksp } : Cpu Ram).setStatus
        (status c.psw c.flags)) := by
      simp only [Cpu.rti, first, second, Option.bind_eq_bind, Option.bind_some]
      rfl
    have call : Follows sys.muxxTrap (fun _ => sys.afterTrapHandle)
        (fun a c c' => a = sys.trapHandle ∧ sys.TrapHandle service c c') (7, c₃) (8, _) :=
      .call there rfl push ⟨rfl, handle⟩ popped
    have last : Reaches sys.muxxTrap (8, _) (14, c₇) := .straight rfl rfl tail
    refine ⟨_, ⟨c₂, 14, c₇, trap, wrapper.follows.trans (call.trans last.follows), rfl, back⟩, ?_⟩
    subst at_c₇
    exact ⟨⟨r0, rfl, rfl, rfl, rfl, usp.trans (at_c₅ ▸ rfl), rfl, bus'⟩, rfl, ofWord_status ..⟩

end Traps

/-- A service that does nothing but return 7. -/
def answering (_ : ADDRESS) (d d' : Cpu Ram) : Prop := d' = { d with r0 := 7 }

theorem answering_conforms {a top : ADDRESS} {d d' : Cpu Ram} (h : answering a d d') :
    Conforms top 14 d d' := by
  subst h
  exact ⟨rfl, rfl, rfl, rfl, rfl, rfl, rfl, rfl, fun _ _ _ => rfl⟩

/-- The program of `caller` asks for mutex 3, with its list at 30000. -/
def listing : Cpu Ram :=
  { caller 25 with
    r0 := 0o30000
    bus := fun a =>
      if a = 0o30000 then 2 else if a = 0o30002 then mutAlloc else if a = 0o30004 then 3
      else (caller 25).bus a }

theorem listing_atListTrap : AtListTrap sampleLink listing [mutAlloc, 3] ⟨.mutex, 2⟩ := by
  have ksp : listing.ksp = 0o150000 := rfl
  refine ⟨by decide, by rw [ksp]; decide, by decide, by decide, by decide, by decide, by decide,
    by rw [ksp]; decide, .inr ⟨by decide, rfl, ?_⟩, ?_, by rw [ksp]; decide, rfl⟩
  · intro i within
    match i with
    | 0 | 1 => rfl
    | i + 2 => exact absurd within (by simp)
  · intro i within
    rw [ksp]
    match i with
    | 0 | 1 | 2 => decide
    | i + 3 => exact absurd within (by simp)

theorem trap_returns_mutex :
    sampleLink.TrapServed answering (sampleLink.link .mutex) [mutAlloc, 3] listing :=
  trap_returns listing_atListTrap fun _ _ h => answering_conforms h

/-! ## Macros -/

/-- A macro gets to its trap with its list at the stack pointer and in r0, and one
instruction behind the trap takes the list away. -/
def Balanced (code : List Line) (number : WORD) (c : Cpu Ram) : Prop :=
  ∃ pc sp bytes f m, Reaches code (0, c) (pc, { c with r0 := sp, usp := sp, flags := f, bus := m }) ∧
    code[pc]? = some (.trap number) ∧
    code[pc + 1]? = some (.instr (.add (.imm bytes) (.reg .sp))) ∧ code.length = pc + 2 ∧
    bytes + sp = c.usp

section Macros
variable {c : Cpu Ram} {o : Operand} {v n : WORD} {os : List Operand} {ws : List WORD}
variable {sp : ADDRESS}

theorem Balanced.block {code : List Line} {is : List Instr} (bytes : WORD) {f : Flags} {m : Ram}
    (text : code = is.map .instr ++ [.trap n, .instr (.add (.imm bytes) (.reg .sp))])
    (ran : execAll is c = some { c with r0 := sp, usp := sp, flags := f, bus := m })
    (back : bytes + sp = c.usp) : Balanced code n c := by
  subst text
  have there : is.map Line.instr <+:
      (is.map Line.instr ++ [Line.trap n, .instr (.add (.imm bytes) (.reg .sp))]).drop 0 := ⟨_, rfl⟩
  refine ⟨is.length, sp, bytes, f, m, by simpa using Reaches.block there ran, ?_, ?_, ?_, back⟩
  · simp
  · simp
  · simp

theorem parmlist_balanced (given : List.Forall₂ (Given c) os ws) (h : InUser c)
    (few : ws.length ≤ 5) : Balanced (parmlist os n) n c := by
  have length := given.length_eq
  have user := h.user
  have low := h.low
  have even := h.even
  obtain ⟨sp, at_list⟩ : ∃ sp, sp = c.usp - BitVec.ofNat 16 (2 * ws.length + 2) := ⟨_, rfl⟩
  have spEven : sp.toNat % 2 = 0 := by
    bv_omega
  have head : execAll [.sub (.imm (BitVec.ofNat 16 (2 * ws.length + 2))) (.reg .sp),
      .mov (.imm (BitVec.ofNat 16 ws.length)) (.deferred .sp)] c = some { c with
        usp := sp
        flags := (Flags.difference c.usp (BitVec.ofNat 16 (2 * ws.length + 2))).move
          (BitVec.ofNat 16 ws.length)
        bus := Function.update c.bus sp (BitVec.ofNat 16 ws.length) } := by
    simp [user, ← at_list, write_ram spEven]
  obtain ⟨f, m, stores, -, -⟩ := moves_given (k := 0) given h few (by omega) at_list
    (f := (Flags.difference c.usp (BitVec.ofNat 16 (2 * ws.length + 2))).move
      (BitVec.ofNat 16 ws.length))
    (m := Function.update c.bus sp (BitVec.ofNat 16 ws.length)) fun a apart =>
      Function.update_of_ne (by unfold Beyond at apart; bv_omega) ..
  have last : execAll [.mov (.reg .sp) (.reg .r0)] { c with usp := sp, flags := f, bus := m } =
      some { c with r0 := sp, usp := sp, flags := f.move sp, bus := m } := by
    simp [user]
  refine .block (BitVec.ofNat 16 (2 * ws.length + 2)) ?_
    (execAll_append (execAll_append head stores) last) (by bv_omega)
  simp only [parmlist, length]
  rfl

theorem conputc_balanced (given : Given c o v) (h : InUser c) :
    Balanced (Macro.conputc o) Krn.putcon c := by
  have user := h.user
  have low := h.low
  have even := h.even
  obtain ⟨sp, at_list⟩ : ∃ sp, sp = c.usp - 4#16 := ⟨_, rfl⟩
  have slotEven : (sp + 2#16).toNat % 2 = 0 := by
    bv_omega
  obtain ⟨head, kept⟩ := list_head h at_list
  obtain ⟨p, given⟩ := given sp ((Flags.difference c.usp 4).move 1) _ kept
  obtain ⟨place, -, readb⟩ := given true
  obtain ⟨w, written, -⟩ := writeb_ram slotEven (Function.update c.bus sp 1#16) (v.setWidth 8)
  have byte : (Instr.movb o (.index 2 .sp)).exec { c with
      usp := sp, flags := (Flags.difference c.usp 4).move 1
      bus := Function.update c.bus sp 1#16 } =
        some { c with
          usp := sp, flags := (Flags.difference c.usp 4).move ((v.setWidth 8).signExtend 16)
          bus := Function.update (Function.update c.bus sp 1#16) (sp + 2#16) w } := by
    simp only [Instr.exec, place, place_index, readb]
    simp [Place.writeb, user, written]
  have last : execAll [.mov (.reg .sp) (.reg .r0)] { c with
      usp := sp, flags := (Flags.difference c.usp 4).move ((v.setWidth 8).signExtend 16)
      bus := Function.update (Function.update c.bus sp 1#16) (sp + 2#16) w } =
        some { c with
          r0 := sp, usp := sp, flags := (Flags.difference c.usp 4).move sp
          bus := Function.update (Function.update c.bus sp 1#16) (sp + 2#16) w } := by
    simp [user]
  let is : List Instr := [.sub (.imm 4) (.reg .sp), .mov (.imm 1) (.deferred .sp),
    .movb o (.index 2 .sp), .mov (.reg .sp) (.reg .r0)]
  have ran : execAll is c = some _ := execAll_append head (execAll_cons byte last)
  exact .block 4 (by rfl) ran (by bv_omega)

/-- Either branch of SUSPEND stores one word. -/
theorem suspend_balanced {curtcb : ADDRESS} (given : Given c o v) (h : InUser c)
    (even : curtcb.toNat % 2 = 0) : Balanced (Macro.suspend curtcb o) Srv.suspend c := by
  have user := h.user
  have low := h.low
  have spEven := h.even
  obtain ⟨sp, at_list⟩ : ∃ sp, sp = c.usp - 4#16 := ⟨_, rfl⟩
  have slotEven : (sp + 2#16).toNat % 2 = 0 := by
    bv_omega
  have back : 4#16 + sp = c.usp := by
    bv_omega
  obtain ⟨head, kept⟩ := list_head h at_list
  obtain ⟨p, given'⟩ := given sp ((Flags.difference c.usp 4).move 1) _ kept
  obtain ⟨place, read, -⟩ := given' false
  have test : (Instr.tst o).exec { c with
      usp := sp, flags := (Flags.difference c.usp 4).move 1
      bus := Function.update c.bus sp 1#16 } =
        some { c with
          usp := sp, flags := Flags.move {} v, bus := Function.update c.bus sp 1#16 } := by
    simp only [Instr.exec, place, read]
    rfl
  have entry : Reaches (Macro.suspend curtcb o) (0, c) (2, _) :=
    .block (by exact ⟨_, rfl⟩) head
  have tested := entry.trans (.one (step_instr rfl test))
  have finish {f : Flags} {w : WORD}
      (there : Reaches (Macro.suspend curtcb o) (3, { c with
        usp := sp, flags := Flags.move {} v, bus := Function.update c.bus sp 1#16 }) (8, { c with
          usp := sp, flags := f
          bus := Function.update (Function.update c.bus sp 1#16) (sp + 2#16) w })) :
      Balanced (Macro.suspend curtcb o) Srv.suspend c := by
    have last : (Instr.mov (.reg .sp) (.reg .r0)).exec { c with
        usp := sp, flags := f
        bus := Function.update (Function.update c.bus sp 1#16) (sp + 2#16) w } =
          some { c with
            r0 := sp, usp := sp, flags := f.move sp
            bus := Function.update (Function.update c.bus sp 1#16) (sp + 2#16) w } := by
      simp [user]
    exact ⟨10, sp, 4, _, _, tested.trans (there.trans ((Reaches.one rfl).trans
      (.one (step_instr rfl last)))), rfl, rfl, rfl, back⟩
  by_cases null : v = 0
  · subst null
    have current : (Instr.mov (.abs curtcb) (.index 2 .sp)).exec { c with
        usp := sp, flags := Flags.move {} 0, bus := Function.update c.bus sp 1#16 } =
          some { c with
            usp := sp
            flags := (Flags.move {} 0).move (Function.update c.bus sp 1#16 curtcb)
            bus := Function.update (Function.update c.bus sp 1#16) (sp + 2#16)
              (Function.update c.bus sp 1#16 curtcb) } := by
      simp [user, read_ram even, write_ram slotEven]
    exact finish ((Reaches.one rfl).trans ((Reaches.one (step_instr rfl current)).trans (.one rfl)))
  · have value : (Instr.mov o (.index 2 .sp)).exec { c with
        usp := sp, flags := Flags.move {} v, bus := Function.update c.bus sp 1#16 } =
          some { c with
            usp := sp, flags := (Flags.move {} v).move v
            bus := Function.update (Function.update c.bus sp 1#16) (sp + 2#16) v } :=
      move_given given user slotEven kept
    have zero : (Flags.move {} v).z = false := beq_false_of_ne null
    have branch : step (Macro.suspend curtcb o) (3, { c with
        usp := sp, flags := Flags.move {} v, bus := Function.update c.bus sp 1#16 }) =
          some (6, { c with
            usp := sp, flags := Flags.move {} v, bus := Function.update c.bus sp 1#16 }) := by
      simp [step, Macro.suspend, zero, target]
      rfl
    exact finish ((Reaches.one branch).trans ((Reaches.one rfl).trans
      (.one (step_instr rfl value))))

theorem call_balanced {sys : Linked} (call : Call) {args : Parm → Operand} {values : Parm → WORD}
    (given : ∀ p, Given c (args p) (values p)) (h : InUser c) (even : sys.curtcb.toNat % 2 = 0) :
    Balanced (call.code sys args) call.number c := by
  by_cases suspend : call = .suspend
  · subst suspend
    exact suspend_balanced (given .task) h even
  by_cases conputc : call = .conputc
  · subst conputc
    exact conputc_balanced (given .char) h
  have operands : List.Forall₂ (Given c) (call.list.map args) (call.list.map values) := by
    rw [List.forall₂_map_left_iff, List.forall₂_map_right_iff]
    exact List.forall₂_same.mpr fun p _ => given p
  rw [code_parmlist call suspend conputc]
  exact parmlist_balanced operands h (by rw [List.length_map]; exact (list_few call).2)

end Macros

/-- A macro as a whole. -/
def Linked.Performs (sys : Linked) (service : ADDRESS → Cpu Ram → Cpu Ram → Prop) (call : Call)
    (args : Parm → Operand) (c c' : Cpu Ram) : Prop :=
  ∃ pc c₁ c₂, Reaches (call.code sys args) (0, c) (pc, c₁) ∧
    (call.code sys args)[pc]? = some (.trap call.number) ∧ sys.Traps service c₁ c₂ ∧
    Reaches (call.code sys args) (pc + 1, c₂) ((call.code sys args).length, c')

section Calls
variable {sys : Linked} {service : ADDRESS → Cpu Ram → Cpu Ram → Prop} {call : Call}
variable {args : Parm → Operand} {values : Parm → WORD} {c c₁ : Cpu Ram} {ws : List WORD}

/-- At the trap of a macro. -/
theorem AtCall.atListTrap (h : AtCall sys c call.number) (room : sys.frame.toNat + 76 ≤ c.ksp.toNat)
    (listed : Listed c c₁ ws) (few : ws.length ≤ 5) {e : SVC_S}
    (entry : trapTable[(255#16 &&& (0x8900#16 + call.number)).toNat]? = some e) :
    AtListTrap sys c₁ ws e := by
  have low := h.user.low
  have even := h.user.even
  have apart := h.apart
  have text := h.textStack
  have r0 := listed.r0
  have ksp := listed.ksp
  refine ⟨listed.user, ksp ▸ h.kspEven, h.pcEven, h.curEven, h.frameEven, ?_, by omega, ?_, ?_, ?_,
    ?_, ?_⟩
  · rw [r0]
    bv_omega
  · rw [ksp]
    omega
  · refine .inr ⟨?_, listed.count, listed.word⟩
    rw [r0]
    bv_omega
  · intro i within
    rw [r0, ksp]
    bv_omega
  · rw [ksp]
    omega
  · rw [listed.other _ h.text, h.trap]
    exact entry

/-- The service that the number of the call has in the table. -/
def Call.reached (call : Call) : SVC := if call = .abort then .exit else call.service

/-- A macro enters its service with its parameters, the last one first, and with no
more changed than its list and the kernel stack. From whatever state the service
ends in, the program goes on behind the macro. -/
def Linked.CallServed (sys : Linked) (service : ADDRESS → Cpu Ram → Cpu Ram → Prop) (call : Call)
    (args : Parm → Operand) (values : Parm → WORD) (c : Cpu Ram) : Prop :=
  ∃ d, (∀ i p, call.list.reverse[i]? = some p →
      ∃ w, d.arg (i + 1) = some w ∧ Receives (c.bus sys.curtcb) values p w) ∧
    (∀ a : ADDRESS, Beyond c.usp a → a.toNat < d.ksp.toNat ∨ c.ksp.toNat ≤ a.toNat →
      d.bus a = c.bus a) ∧
    ∀ d', service (sys.link call.reached) d d' →
      ∃ c', sys.Performs service call args c c' ∧ Finished c d' c'

end Calls

end Muxx
