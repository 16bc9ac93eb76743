import Glm53Overlay.ExpertTickets.Served

/-!
`exl3_moe` in front of the kernel: the grid it launches, and calls on one device one after the
other. The scheduler words are zeroed once, when the lock buffer is made; after that every
launch finds what the one before has left.
-/
namespace ExpertTickets

def moeSmsPerExpert : Nat := 8
def moeMaxSmsPerExpert : Nat := 32
def moeMaxGroups : Nat := 64

/-- The arguments that decide the launch; `concurrency` is the first extent of the temp state
    buffers. As its documentation has it, `num_active` is the number of experts the kernel
    handles, or -1. -/
structure Call where
  expertCount : List Nat
  concurrency : Nat
  maxTokensPerExpert : Nat
  hiddenDim : Nat
  numActive : Int
  buffers : 0 < concurrency
  told : numActive = -1 ∨ numActive = ((List.range expertCount.dropLast.length).filter fun e =>
    0 < expertCount.dropLast.getD e 0 ∧
      expertCount.dropLast.getD e 0 ≤ maxTokensPerExpert).length

namespace Call
variable (c : Call) (numSms : Nat)

def numGroups : Nat :=
  let groups := min c.concurrency moeMaxGroups
  if 0 < c.numActive then min groups c.numActive.toNat else groups

def groupSize : Nat :=
  if 0 < c.numActive then min (numSms / c.numGroups) moeMaxSmsPerExpert else moeSmsPerExpert

theorem numGroups_pos : 0 < c.numGroups := by
  have buffers := c.buffers
  simp only [numGroups, moeMaxGroups]
  split <;> omega

theorem numGroups_le : c.numGroups ≤ c.concurrency ∧ c.numGroups ≤ moeMaxGroups := by
  simp only [numGroups]
  split <;> omega

variable {numSms}

theorem groupSize_ge (room : c.concurrency * moeSmsPerExpert ≤ numSms) :
    moeSmsPerExpert ≤ c.groupSize numSms := by
  have share : moeSmsPerExpert ≤ numSms / c.numGroups := by
    rw [Nat.le_div_iff_mul_le c.numGroups_pos, Nat.mul_comm]
    exact Nat.le_trans (Nat.mul_le_mul_right _ c.numGroups_le.1) room
  simp only [groupSize, moeMaxSmsPerExpert]
  split
  · simp only [moeSmsPerExpert] at share ⊢
    omega
  · exact Nat.le_refl _

def launch (room : c.concurrency * moeSmsPerExpert ≤ numSms) : Launch where
  numGroups := c.numGroups
  groupSize := c.groupSize numSms
  expertCount := c.expertCount
  maxTokensPerExpert := c.maxTokensPerExpert
  hiddenDim := c.hiddenDim
  groups_pos := c.numGroups_pos
  size_pos := Nat.lt_of_lt_of_le (by decide) (c.groupSize_ge room)

def owed : List (Nat × Nat) :=
  ExpertTickets.owed c.expertCount c.maxTokensPerExpert c.hiddenDim

theorem owed_of_idle (idle : c.numActive = 0) : c.owed = [] := by
  have empty : ((List.range c.expertCount.dropLast.length).filter fun e =>
      0 < c.expertCount.dropLast.getD e 0 ∧
        c.expertCount.dropLast.getD e 0 ≤ c.maxTokensPerExpert) = [] := by
    rcases c.told with unknown | known
    · omega
    · rw [idle] at known
      exact List.eq_nil_of_length_eq_zero (by omega)
  simp only [owed, ExpertTickets.owed, empty, List.flatMap_nil]
end Call

/-- The grid fits: its blocks are resident together, every group has a temp buffer and a word
    to publish its tickets in. -/
theorem grid_fits (c : Call) {numSms : Nat} (room : c.concurrency * moeSmsPerExpert ≤ numSms) :
    (c.launch room).numGroups * (c.launch room).groupSize ≤ numSms ∧
      (c.launch room).numGroups ≤ c.concurrency ∧ (c.launch room).numGroups ≤ moeMaxGroups ∧
      moeSmsPerExpert ≤ (c.launch room).groupSize ∧
      (c.launch room).groupSize ≤ moeMaxSmsPerExpert := by
  refine ⟨?_, c.numGroups_le.1, c.numGroups_le.2, c.groupSize_ge room, ?_⟩
  · show c.numGroups * c.groupSize numSms ≤ numSms
    simp only [Call.groupSize]
    split
    · calc c.numGroups * min (numSms / c.numGroups) moeMaxSmsPerExpert
          ≤ c.numGroups * (numSms / c.numGroups) := Nat.mul_le_mul_left _ (Nat.min_le_left _ _)
        _ ≤ numSms := Nat.mul_div_le _ _
    · exact Nat.le_trans (Nat.mul_le_mul_right _ c.numGroups_le.1) room
  · show c.groupSize numSms ≤ moeMaxSmsPerExpert
    simp only [Call.groupSize]
    split
    · exact Nat.min_le_right _ _
    · decide

def fourExperts : Call where
  expertCount := [1, 2, 0, 1, 3, 0]
  concurrency := 6
  maxTokensPerExpert := 128
  hiddenDim := 6144
  numActive := 4
  buffers := by decide
  told := Or.inr (by decide)

theorem fourExperts_room : fourExperts.concurrency * moeSmsPerExpert ≤ 48 := by decide

theorem grid_fits_four_experts : (fourExperts.launch fourExperts_room).numGroups = 4 ∧
    (fourExperts.launch fourExperts_room).groupSize = 12 ∧ 4 * 12 ≤ 48 :=
  ⟨rfl, rfl, (grid_fits fourExperts fourExperts_room).1⟩

section Sessions
variable {barrier : GroupBarrier}

/-- The scheduler words of a new lock buffer. -/
def Sched.zeroed : Sched := ⟨0, 0, fun _ => 0⟩

/-- Calls on one device, one kernel after the other: what each has scattered, `none` where it
    was refused, and the words they leave. -/
inductive Session (barrier : GroupBarrier) (numSms : Nat) :
    Sched → List Call → List (Option (List (Nat × Nat))) → Sched → Prop
  | done (sched : Sched) : Session barrier numSms sched [] [] sched
  | nothing {sched last calls outputs} (c : Call) (idle : c.numActive = 0)
      (later : Session barrier numSms sched calls outputs last) :
      Session barrier numSms sched (c :: calls) (some [] :: outputs) last
  | refused {sched last calls outputs} (c : Call) (asks : c.numActive ≠ 0)
      (full : numSms < c.concurrency * moeSmsPerExpert)
      (later : Session barrier numSms sched calls outputs last) :
      Session barrier numSms sched (c :: calls) (none :: outputs) last
  | launched {sched last calls outputs} (c : Call) (asks : c.numActive ≠ 0)
      (room : c.concurrency * moeSmsPerExpert ≤ numSms)
      (actors : List (Fin (c.launch room).numGroups × Fin (c.launch room).groupSize))
      (s : State (c.launch room)) (ran : (start (c.launch room) sched).run barrier actors = some s)
      (finished : s.Finished) (later : Session barrier numSms s.sched calls outputs last) :
      Session barrier numSms sched (c :: calls) (some s.output :: outputs) last

def Answered (numSms : Nat) (c : Call) : Option (List (Nat × Nat)) → Prop
  | some output => output.Perm c.owed
  | none => numSms < c.concurrency * moeSmsPerExpert

theorem answered_of_launched {c : Call} {numSms : Nat}
    {room : c.concurrency * moeSmsPerExpert ≤ numSms} {sched : Sched} {s : State (c.launch room)}
    {actors : List (Fin (c.launch room).numGroups × Fin (c.launch room).groupSize)}
    (next : sched.next = 0) (retired : sched.retired = 0)
    (ran : (start (c.launch room) sched).run barrier actors = some s) (finished : s.Finished) :
    s.output.Perm c.owed ∧ s.sched.next = 0 ∧ s.sched.retired = 0 := by
  obtain ⟨held, bound, inv⟩ := run_kept (start_inv next retired) actors ran
  exact ⟨output_once inv finished, words_reset inv finished⟩

theorem session_from {numSms : Nat} {sched last : Sched} {calls : List Call}
    {outputs : List (Option (List (Nat × Nat)))}
    (session : Session barrier numSms sched calls outputs last) (next : sched.next = 0)
    (retired : sched.retired = 0) :
    List.Forall₂ (Answered numSms) calls outputs ∧ last.next = 0 ∧ last.retired = 0 := by
  induction session with
  | done sched => exact ⟨List.Forall₂.nil, next, retired⟩
  | nothing c idle later ih =>
    obtain ⟨rest, left⟩ := ih next retired
    refine ⟨List.Forall₂.cons ?_ rest, left⟩
    rw [Answered, c.owed_of_idle idle]
  | refused c asks full later ih =>
    obtain ⟨rest, left⟩ := ih next retired
    exact ⟨List.Forall₂.cons full rest, left⟩
  | launched c asks room actors s ran finished later ih =>
    obtain ⟨output, next', retired'⟩ := answered_of_launched next retired ran finished
    obtain ⟨rest, left⟩ := ih next' retired'
    exact ⟨List.Forall₂.cons output rest, left⟩

theorem session_exists (numSms : Nat) (calls : List Call) :
    ∀ sched : Sched, sched.next = 0 → sched.retired = 0 →
      ∃ outputs last, Session barrier numSms sched calls outputs last := by
  induction calls with
  | nil => exact fun sched _ _ => ⟨[], sched, .done sched⟩
  | cons c calls ih =>
    intro sched next retired
    by_cases idle : c.numActive = 0
    · obtain ⟨outputs, last, later⟩ := ih sched next retired
      exact ⟨_, last, .nothing c idle later⟩
    · by_cases room : c.concurrency * moeSmsPerExpert ≤ numSms
      · obtain ⟨actors, s, ran, finished⟩ :=
          can_finish (start_inv (l := c.launch room) next retired)
        obtain ⟨_, next', retired'⟩ := answered_of_launched next retired ran finished
        obtain ⟨outputs, last, later⟩ := ih s.sched next' retired'
        exact ⟨_, last, .launched c idle room actors s ran finished later⟩
      · obtain ⟨outputs, last, later⟩ := ih sched next retired
        exact ⟨_, last, .refused c idle (Nat.lt_of_not_le room) later⟩

/-- Any calls on a device can be served, and however their blocks interleave every call that is
    not refused scatters every chunk of every expert it handles once; the next call finds the
    counters at zero. -/
theorem sessions_serve_once (barrier : GroupBarrier) (numSms : Nat) (calls : List Call) :
    (∃ outputs last, Session barrier numSms Sched.zeroed calls outputs last) ∧
    ∀ outputs last, Session barrier numSms Sched.zeroed calls outputs last →
      List.Forall₂ (Answered numSms) calls outputs ∧ last.next = 0 ∧ last.retired = 0 :=
  ⟨session_exists numSms calls Sched.zeroed rfl rfl,
    fun _ _ session => session_from session rfl rfl⟩
end Sessions
end ExpertTickets
