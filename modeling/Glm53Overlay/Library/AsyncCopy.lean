import Mathlib.Logic.Relation
import Mathlib.Logic.Function.Basic
import Mathlib.Data.Fintype.Basic
import Mathlib.Data.List.Basic
import Mathlib.Order.WellFounded

/-!
Threads that run one program side by side and copy into a shared memory in the background.
A copy is issued, stays in flight and lands at any later moment. A fence closes the group of
the copies issued since the last one; groups retire oldest first once all their copies have
landed; a wait blocks while more than a given number of closed groups is left. A barrier
lets a thread pass once every thread has come to it.
-/
namespace AsyncCopy

inductive Op where
  | load (item : Nat)
  | fence
  | wait (groups : Nat)
  | barrier
  | work (item : Nat)
  deriving DecidableEq

structure Copy (Addr Val : Type*) where
  dst : Addr
  value : Val

/-- A copy under way: the group it was issued in and the item it belongs to. -/
structure Flight (Addr Val : Type*) where
  group : Nat
  item : Nat
  copy : Copy Addr Val

structure Thread (Addr Val : Type*) where
  pc : Nat
  closed : Nat
  retired : Nat
  flights : List (Flight Addr Val)

/-- The memory remembers which item wrote an address last. -/
structure State (T Addr Val : Type*) where
  thread : T → Thread Addr Val
  memory : Addr → Option (Nat × Val)

section Machine
variable {T Addr Val : Type*} [DecidableEq T] [DecidableEq Addr]
variable (prog : List Op) (copies : T → Nat → List (Copy Addr Val))

def State.set (s : State T Addr Val) (i : T) (t : Thread Addr Val) : State T Addr Val :=
  { s with thread := Function.update s.thread i t }

/-- One thread runs its next operation, a copy lands, or a group retires. -/
inductive Step : State T Addr Val → State T Addr Val → Prop
  | load (s : State T Addr Val) (i : T) (m : Nat) (op : prog[(s.thread i).pc]? = some (.load m)) :
    Step s (s.set i { s.thread i with
      pc := (s.thread i).pc + 1
      flights := (s.thread i).flights ++
        (copies i m).map fun c => ⟨(s.thread i).closed, m, c⟩ })
  | fence (s : State T Addr Val) (i : T) (op : prog[(s.thread i).pc]? = some .fence) :
    Step s (s.set i { s.thread i with
      pc := (s.thread i).pc + 1
      closed := (s.thread i).closed + 1 })
  | wait (s : State T Addr Val) (i : T) (n : Nat) (op : prog[(s.thread i).pc]? = some (.wait n))
      (drained : (s.thread i).closed ≤ (s.thread i).retired + n) :
    Step s (s.set i { s.thread i with pc := (s.thread i).pc + 1 })
  | barrier (s : State T Addr Val) (i : T) (op : prog[(s.thread i).pc]? = some .barrier)
      (arrived : ∀ j, (s.thread i).pc ≤ (s.thread j).pc) :
    Step s (s.set i { s.thread i with pc := (s.thread i).pc + 1 })
  | work (s : State T Addr Val) (i : T) (m : Nat) (op : prog[(s.thread i).pc]? = some (.work m)) :
    Step s (s.set i { s.thread i with pc := (s.thread i).pc + 1 })
  | land (s : State T Addr Val) (i : T) (before after : List (Flight Addr Val))
      (f : Flight Addr Val) (found : (s.thread i).flights = before ++ f :: after) :
    Step s { s.set i { s.thread i with flights := before ++ after } with
      memory := Function.update s.memory f.copy.dst (some (f.item, f.copy.value)) }
  | retire (s : State T Addr Val) (i : T) (left : (s.thread i).retired < (s.thread i).closed)
      (landed : ∀ f ∈ (s.thread i).flights, f.group ≠ (s.thread i).retired) :
    Step s (s.set i { s.thread i with retired := (s.thread i).retired + 1 })

def Initial (s : State T Addr Val) : Prop := ∀ i, s.thread i = ⟨0, 0, 0, []⟩

def Reachable (s : State T Addr Val) : Prop :=
  ∃ start, Initial start ∧ Relation.ReflTransGen (Step prog copies) start s

theorem reachable_induction {motive : State T Addr Val → Prop}
    (initial : ∀ s, Initial s → motive s)
    (step : ∀ s s', Reachable prog copies s → motive s → Step prog copies s s' → motive s')
    {s : State T Addr Val} (reached : Reachable prog copies s) : motive s := by
  obtain ⟨start, first, run⟩ := reached
  induction run with
  | refl => exact initial start first
  | tail earlier last ih => exact step _ _ ⟨start, first, earlier⟩ ih last

def fences (p : Nat) : Nat := (prog.take p).count .fence

theorem fences_succ {p : Nat} {op : Op} (here : prog[p]? = some op) :
    fences prog (p + 1) = fences prog p + if op = .fence then 1 else 0 := by
  rw [fences, List.take_add_one, here, List.count_append, fences]
  by_cases closing : op = .fence <;> simp [closing]

/-- The books of one thread: groups closed by fences, copies in groups that are not
    retired, and what the waits it has passed guarantee. -/
structure Accounted (i : T) (t : Thread Addr Val) : Prop where
  closed : t.closed = fences prog t.pc
  retired : t.retired ≤ t.closed
  flight : ∀ f ∈ t.flights, t.retired ≤ f.group ∧ f.copy ∈ copies i f.item ∧
    ∃ q < t.pc, prog[q]? = some (.load f.item) ∧ fences prog q = f.group
  waited : ∀ q < t.pc, ∀ n, prog[q]? = some (.wait n) → fences prog q ≤ t.retired + n

omit [DecidableEq T] [DecidableEq Addr] in
theorem accounted_advance {i : T} {t : Thread Addr Val} (books : Accounted prog copies i t)
    {op : Op} (here : prog[t.pc]? = some op) (open' : op ≠ .fence)
    (drained : ∀ n, op = .wait n → t.closed ≤ t.retired + n) :
    Accounted prog copies i { t with pc := t.pc + 1 } where
  closed := by
    rw [fences_succ prog here, if_neg open']
    exact books.closed
  retired := books.retired
  flight := by
    intro f member
    obtain ⟨young, own, q, earlier, issued⟩ := books.flight f member
    exact ⟨young, own, q, Nat.lt_succ_of_lt earlier, issued⟩
  waited := by
    intro q before n waits
    rcases Nat.lt_succ_iff_lt_or_eq.mp before with earlier | rfl
    · exact books.waited q earlier n waits
    · have same := Option.some.inj (here.symm.trans waits)
      rw [← books.closed]
      exact drained n same

omit [DecidableEq Addr] in
theorem accounted_set {s : State T Addr Val} (books : ∀ i, Accounted prog copies i (s.thread i))
    {i : T} {t : Thread Addr Val} (own : Accounted prog copies i t) (j : T) :
    Accounted prog copies j ((s.set i t).thread j) := by
  by_cases same : j = i
  · subst same
    simpa [State.set] using own
  · simpa [State.set, same] using books j

theorem accounted_step {s s' : State T Addr Val}
    (books : ∀ i, Accounted prog copies i (s.thread i)) (step : Step prog copies s s') (i : T) :
    Accounted prog copies i (s'.thread i) := by
  cases step with
  | load j m op =>
    have advanced := accounted_advance prog copies (books j) op (by simp) (by simp)
    refine accounted_set prog copies books ?_ i
    constructor
    case closed => exact advanced.closed
    case retired => exact advanced.retired
    case waited => exact advanced.waited
    case flight =>
      intro f member
      rcases List.mem_append.mp member with old | new
      · exact advanced.flight f old
      · obtain ⟨c, own, rfl⟩ := List.mem_map.mp new
        exact ⟨(books j).retired, own, _, Nat.lt_succ_self _, op, (books j).closed.symm⟩
  | fence j op =>
    refine accounted_set prog copies books ?_ i
    constructor
    case closed => rw [fences_succ prog op, if_pos rfl, ← (books j).closed]
    case retired => exact Nat.le_succ_of_le (books j).retired
    case flight =>
      intro f member
      obtain ⟨young, own, q, earlier, issued⟩ := (books j).flight f member
      exact ⟨young, own, q, Nat.lt_succ_of_lt earlier, issued⟩
    case waited =>
      intro q before n waits
      rcases Nat.lt_succ_iff_lt_or_eq.mp before with earlier | rfl
      · exact (books j).waited q earlier n waits
      · exact absurd (op.symm.trans waits) (by simp)
  | wait j n op drained =>
    exact accounted_set prog copies books
      (accounted_advance prog copies (books j) op (by simp)
        fun m same => by cases same; exact drained) i
  | barrier j op arrived =>
    exact accounted_set prog copies books
      (accounted_advance prog copies (books j) op (by simp) (by simp)) i
  | work j m op =>
    exact accounted_set prog copies books
      (accounted_advance prog copies (books j) op (by simp) (by simp)) i
  | land j before after f found =>
    change Accounted prog copies i
      ((s.set j { s.thread j with flights := before ++ after }).thread i)
    refine accounted_set prog copies books ?_ i
    constructor
    case closed => exact (books j).closed
    case retired => exact (books j).retired
    case waited => exact (books j).waited
    case flight =>
      intro g member
      apply (books j).flight g
      rw [found]
      rcases List.mem_append.mp member with early | late
      · exact List.mem_append_left _ early
      · exact List.mem_append_right _ (List.mem_cons_of_mem _ late)
  | retire j left landed =>
    refine accounted_set prog copies books ?_ i
    constructor
    case closed => exact (books j).closed
    case retired => exact left
    case flight =>
      intro f member
      obtain ⟨young, own⟩ := (books j).flight f member
      have other := landed f member
      exact ⟨by dsimp only; omega, own⟩
    case waited =>
      intro q before n waits
      have enough := (books j).waited q before n waits
      dsimp only
      omega

theorem reachable_accounted {s : State T Addr Val} (reached : Reachable prog copies s) (i : T) :
    Accounted prog copies i (s.thread i) := by
  refine reachable_induction prog copies (motive := fun s => ∀ i, Accounted prog copies i (s.thread i))
    ?_ ?_ reached i
  · intro s first i
    rw [first i]
    exact ⟨by simp [fences], Nat.le_refl _, by simp, by simp⟩
  · intro s s' _ books step
    exact accounted_step prog copies books step

def Aligned (s : State T Addr Val) : Prop :=
  ∀ p, prog[p]? = some .barrier → ∀ i j, p < (s.thread i).pc → p ≤ (s.thread j).pc

theorem step_pc {s s' : State T Addr Val} (step : Step prog copies s s') :
    (∀ j, (s'.thread j).pc = (s.thread j).pc) ∨
      ∃ i op, prog[(s.thread i).pc]? = some op ∧
        (op = .barrier → ∀ j, (s.thread i).pc ≤ (s.thread j).pc) ∧
        ∀ j, (s'.thread j).pc = if j = i then (s.thread i).pc + 1 else (s.thread j).pc := by
  have moved : ∀ (i : T) (t : Thread Addr Val) (j : T), ((s.set i t).thread j).pc =
      if j = i then t.pc else (s.thread j).pc := by
    intro i t j
    by_cases same : j = i <;> simp [State.set, same]
  have still : ∀ (i : T) (t : Thread Addr Val), t.pc = (s.thread i).pc → ∀ j,
      ((s.set i t).thread j).pc = (s.thread j).pc := by
    intro i t kept j
    rw [moved]
    split
    · rename_i same
      rw [kept, same]
    · rfl
  cases step with
  | load i m op => exact Or.inr ⟨i, _, op, by simp, moved i _⟩
  | fence i op => exact Or.inr ⟨i, _, op, by simp, moved i _⟩
  | wait i n op drained => exact Or.inr ⟨i, _, op, by simp, moved i _⟩
  | barrier i op arrived => exact Or.inr ⟨i, _, op, fun _ => arrived, moved i _⟩
  | work i m op => exact Or.inr ⟨i, _, op, by simp, moved i _⟩
  | land i before after f found => exact Or.inl (still i _ rfl)
  | retire i left landed => exact Or.inl (still i _ rfl)

theorem reachable_aligned {s : State T Addr Val} (reached : Reachable prog copies s) :
    Aligned prog s := by
  refine reachable_induction prog copies ?_ ?_ reached
  · intro s first p _ i j past
    rw [first i] at past
    exact absurd past (Nat.not_lt_zero p)
  · intro s s' _ aligned step p barrier i j past
    rcases step_pc prog copies step with still | ⟨k, op, here, all, moved⟩
    · rw [still] at past ⊢
      exact aligned p barrier i j past
    · have forward : (s.thread j).pc ≤ (s'.thread j).pc := by
        rw [moved j]
        split
        · rename_i same
          rw [same]
          omega
        · exact Nat.le_refl _
      refine Nat.le_trans ?_ forward
      rw [moved i] at past
      split at past
      · rcases Nat.lt_succ_iff_lt_or_eq.mp past with earlier | arrived
        · exact aligned p barrier k j earlier
        · rw [← arrived] at here all
          exact all (Option.some.inj (here.symm.trans barrier)) j
      · exact aligned p barrier i j past

def Issued (s : State T Addr Val) (i : T) (m : Nat) : Prop :=
  ∃ q < (s.thread i).pc, prog[q]? = some (.load m)

/-- No item after the one in flight has been issued to the same address. -/
def Separated (s : State T Addr Val) : Prop :=
  ∀ i, ∀ f ∈ (s.thread i).flights, ∀ j m, ∀ c ∈ copies j m, c.dst = f.copy.dst →
    Issued prog s j m → m ≤ f.item

/-- The last item issued to an address is in the memory unless it is still in flight. -/
def Settled (s : State T Addr Val) : Prop :=
  ∀ i m, ∀ c ∈ copies i m, Issued prog s i m →
    (∀ f ∈ (s.thread i).flights, f.item = m → f.copy.dst ≠ c.dst) →
    (∀ j n, ∀ d ∈ copies j n, d.dst = c.dst → Issued prog s j n → n ≤ m) →
    s.memory c.dst = some (m, c.value)

omit [DecidableEq Addr] in
theorem issued_set (s : State T Addr Val) (i : T) (t : Thread Addr Val)
    (forward : (s.thread i).pc ≤ t.pc) {j : T} {m : Nat} (issued : Issued prog s j m) :
    Issued prog (s.set i t) j m := by
  obtain ⟨q, before, here⟩ := issued
  refine ⟨q, ?_, here⟩
  by_cases same : j = i
  · subst same
    simpa [State.set] using Nat.lt_of_lt_of_le before forward
  · simpa [State.set, same] using before

omit [DecidableEq Addr] in
theorem settled_set {s : State T Addr Val} (settled : Settled prog copies s) (i : T)
    (t : Thread Addr Val) (forward : (s.thread i).pc ≤ t.pc)
    (flights : ∀ f ∈ (s.thread i).flights, f ∈ t.flights)
    (issues : ∀ m, Issued prog (s.set i t) i m → ¬ Issued prog s i m → ∀ c ∈ copies i m,
      ∃ f ∈ t.flights, f.item = m ∧ f.copy.dst = c.dst) :
    Settled prog copies (s.set i t) := by
  intro j m c own issued landed latest
  have last : ∀ k n, ∀ d ∈ copies k n, d.dst = c.dst → Issued prog s k n → n ≤ m :=
    fun k n d member same earlier =>
      latest k n d member same (issued_set prog s i t forward earlier)
  by_cases same : j = i
  · subst same
    have record : (s.set j t).thread j = t := by simp [State.set]
    rw [record] at landed
    by_cases before : Issued prog s j m
    · exact settled j m c own before (fun f member => landed f (flights f member)) last
    · obtain ⟨f, member, item, dst⟩ := issues m issued before c own
      exact absurd dst (landed f member item)
  · have record : (s.set i t).thread j = s.thread j := by simp [State.set, same]
    rw [record] at landed
    have before : Issued prog s j m := by
      rw [Issued, record] at issued
      exact issued
    exact settled j m c own before landed last

omit [DecidableEq Addr] in
theorem issued_advance {s : State T Addr Val} {i : T} {t : Thread Addr Val} {op : Op}
    (here : prog[(s.thread i).pc]? = some op) (forward : t.pc = (s.thread i).pc + 1) {m : Nat}
    (issued : Issued prog (s.set i t) i m) : Issued prog s i m ∨ op = .load m := by
  obtain ⟨q, before, issue⟩ := issued
  have record : (s.set i t).thread i = t := by simp [State.set]
  rw [record, forward] at before
  rcases Nat.lt_succ_iff_lt_or_eq.mp before with earlier | rfl
  · exact Or.inl ⟨q, earlier, issue⟩
  · exact Or.inr (Option.some.inj (here.symm.trans issue))

theorem settled_step {s s' : State T Addr Val}
    (valued : ∀ i j m, ∀ c ∈ copies i m, ∀ d ∈ copies j m, c.dst = d.dst → c.value = d.value)
    (books : ∀ i, Accounted prog copies i (s.thread i)) (separated : Separated prog copies s)
    (settled : Settled prog copies s) (step : Step prog copies s s') :
    Settled prog copies s' := by
  have quiet : ∀ (i : T) (t : Thread Addr Val) (op : Op), prog[(s.thread i).pc]? = some op →
      (∀ m, op ≠ .load m) → t.pc = (s.thread i).pc + 1 → t.flights = (s.thread i).flights →
      Settled prog copies (s.set i t) := by
    intro i t op here silent forward same
    refine settled_set prog copies settled i t (by omega) (fun f member => same ▸ member) ?_
    intro m issued fresh
    rcases issued_advance prog here forward issued with before | loads
    · exact absurd before fresh
    · exact absurd loads (silent m)
  cases step with
  | load i m op =>
    refine settled_set prog copies settled i _ (Nat.le_succ _)
      (fun f member => List.mem_append_left _ member) ?_
    intro n issued fresh c own
    rcases issued_advance prog op rfl issued with before | loads
    · exact absurd before fresh
    · obtain rfl : m = n := by simpa using loads
      exact ⟨⟨(s.thread i).closed, m, c⟩,
        List.mem_append_right _ (List.mem_map.mpr ⟨c, own, rfl⟩), rfl, rfl⟩
  | fence i op => exact quiet i _ _ op (by simp) rfl rfl
  | wait i n op drained => exact quiet i _ _ op (by simp) rfl rfl
  | barrier i op arrived => exact quiet i _ _ op (by simp) rfl rfl
  | work i m op => exact quiet i _ _ op (by simp) rfl rfl
  | retire i left landed =>
    refine settled_set prog copies settled i _ (Nat.le_refl _) (fun f member => member) ?_
    rintro m ⟨q, before, issue⟩ fresh
    have record : ∀ t : Thread Addr Val, (s.set i t).thread i = t := by simp [State.set]
    rw [record] at before
    exact absurd ⟨q, before, issue⟩ fresh
  | land i before after f found =>
    intro j m c own issued landed latest
    have pcs : ∀ k, ((s.set i { s.thread i with flights := before ++ after }).thread k).pc =
        (s.thread k).pc := by
      intro k
      by_cases same : k = i <;> simp [State.set, same]
    have same_issued : ∀ k n, Issued prog s k n → Issued prog
        { s.set i { s.thread i with flights := before ++ after } with
          memory := Function.update s.memory f.copy.dst (some (f.item, f.copy.value)) } k n := by
      intro k n earlier
      simpa only [Issued, pcs] using earlier
    have was_issued : Issued prog s j m := by
      simpa only [Issued, pcs] using issued
    have member : f ∈ (s.thread i).flights := by
      rw [found]
      exact List.mem_append_right _ List.mem_cons_self
    obtain ⟨_, source, q, past, issue, _⟩ := (books i).flight f member
    by_cases here : c.dst = f.copy.dst
    · -- the copy that lands is the last one issued to this address
      have upper := latest i f.item f.copy source here.symm (same_issued i f.item ⟨q, past, issue⟩)
      have lower := separated i f member j m c own here was_issued
      obtain rfl : f.item = m := Nat.le_antisymm upper lower
      have value := valued j i f.item c own f.copy source here
      simp [here, value]
    · have kept : s.memory c.dst = some (m, c.value) := by
        refine settled j m c own was_issued ?_ fun k n d mine same earlier =>
          latest k n d mine same (same_issued k n earlier)
        intro g flying item
        by_cases same : j = i
        · subst same
          rw [found] at flying
          rcases List.mem_append.mp flying with early | late
          · exact landed g (by simp [State.set, early]) item
          · rcases List.mem_cons.mp late with rfl | late
            · exact Ne.symm here
            · exact landed g (by simp [State.set, late]) item
        · exact landed g (by simpa [State.set, same] using flying) item
      simpa [Function.update_of_ne here] using kept

theorem reachable_settled
    (valued : ∀ i j m, ∀ c ∈ copies i m, ∀ d ∈ copies j m, c.dst = d.dst → c.value = d.value)
    (separated : ∀ s : State T Addr Val, Reachable prog copies s → Separated prog copies s)
    {s : State T Addr Val} (reached : Reachable prog copies s) : Settled prog copies s := by
  refine reachable_induction prog copies ?_ ?_ reached
  · rintro s first i m c _ ⟨q, before, _⟩
    rw [first i] at before
    exact absurd before (Nat.not_lt_zero q)
  · intro s s' reached settled step
    exact settled_step prog copies valued (reachable_accounted prog copies reached)
      (separated s reached) settled step

/-- The machine never locks up: unless every thread has ended, some step is possible. -/
theorem progress [Nonempty T] (s : State T Addr Val) :
    (∀ i, prog.length ≤ (s.thread i).pc) ∨ ∃ s', Step prog copies s s' := by
  by_cases flying : ∃ i, (s.thread i).flights ≠ []
  · obtain ⟨i, some_flight⟩ := flying
    obtain ⟨f, rest, found⟩ := List.exists_cons_of_ne_nil some_flight
    exact Or.inr ⟨_, .land s i [] rest f found⟩
  by_cases pending : ∃ i, (s.thread i).retired < (s.thread i).closed
  · obtain ⟨i, left⟩ := pending
    refine Or.inr ⟨_, .retire s i left fun f member => ?_⟩
    exact absurd ⟨i, List.ne_nil_of_mem member⟩ flying
  -- nothing is under way, so the thread that is furthest behind can run
  obtain ⟨i, _, behind⟩ := WellFounded.has_min (measure fun i => (s.thread i).pc).wf Set.univ
    Set.univ_nonempty
  have least : ∀ j, (s.thread i).pc ≤ (s.thread j).pc := fun j =>
    Nat.le_of_not_lt (behind j (Set.mem_univ j))
  cases here : prog[(s.thread i).pc]? with
  | none =>
    left
    intro j
    exact Nat.le_trans (List.getElem?_eq_none_iff.mp here) (least j)
  | some op =>
    right
    cases op with
    | load m => exact ⟨_, .load s i m here⟩
    | fence => exact ⟨_, .fence s i here⟩
    | wait n =>
      have drained : ¬ (s.thread i).retired < (s.thread i).closed := fun left => pending ⟨i, left⟩
      exact ⟨_, .wait s i n here (by omega)⟩
    | barrier => exact ⟨_, .barrier s i here least⟩
    | work m => exact ⟨_, .work s i m here⟩

structure Alone (i : T) (s s' : State T Addr Val) : Prop where
  run : Relation.ReflTransGen (Step prog copies) s s'
  others : ∀ j, j ≠ i → s'.thread j = s.thread j

section Alone
variable {i : T} {s s' : State T Addr Val}

theorem Alone.refl : Alone prog copies i s s := ⟨.refl, fun _ _ => rfl⟩

theorem Alone.trans {s'' : State T Addr Val} (first : Alone prog copies i s s')
    (second : Alone prog copies i s' s'') : Alone prog copies i s s'' :=
  ⟨first.run.trans second.run,
    fun j other => (second.others j other).trans (first.others j other)⟩

theorem alone_lands (flights : List (Flight Addr Val)) :
    ∀ s : State T Addr Val, (s.thread i).flights = flights →
      ∃ s', Alone prog copies i s s' ∧ (s'.thread i).flights = [] ∧
        (s'.thread i).pc = (s.thread i).pc := by
  induction flights with
  | nil => exact fun s none => ⟨s, .refl prog copies, none, rfl⟩
  | cons f rest ih =>
    intro s found
    obtain ⟨s₁, lands, left, pc₁⟩ : ∃ s₁, Alone prog copies i s s₁ ∧
        (s₁.thread i).flights = rest ∧ (s₁.thread i).pc = (s.thread i).pc :=
      ⟨_, ⟨.single (.land s i [] rest f found), fun j other => by simp [State.set, other]⟩,
        by simp [State.set], by simp [State.set]⟩
    obtain ⟨s', alone, landed, pc⟩ := ih s₁ left
    exact ⟨s', lands.trans prog copies alone, landed, pc.trans pc₁⟩

theorem alone_retires (left : Nat) :
    ∀ s : State T Addr Val, (s.thread i).closed - (s.thread i).retired = left →
      (s.thread i).flights = [] →
      ∃ s', Alone prog copies i s s' ∧ (s'.thread i).closed ≤ (s'.thread i).retired ∧
        (s'.thread i).pc = (s.thread i).pc := by
  induction left with
  | zero => exact fun s none _ => ⟨s, .refl prog copies, by omega, rfl⟩
  | succ left ih =>
    intro s more landed
    have quiet : ∀ f ∈ (s.thread i).flights, f.group ≠ (s.thread i).retired := by simp [landed]
    obtain ⟨s₁, retires, fewer, still, pc₁⟩ : ∃ s₁, Alone prog copies i s s₁ ∧
        (s₁.thread i).closed - (s₁.thread i).retired = left ∧ (s₁.thread i).flights = [] ∧
        (s₁.thread i).pc = (s.thread i).pc :=
      ⟨_, ⟨.single (.retire s i (by omega) quiet), fun j other => by simp [State.set, other]⟩,
        by simp only [State.set, Function.update_self]; omega, by simp [State.set, landed],
        by simp [State.set]⟩
    obtain ⟨s', alone, retired, pc⟩ := ih s₁ fewer still
    exact ⟨s', retires.trans prog copies alone, retired, pc.trans pc₁⟩

theorem alone_advances {op : Op} (here : prog[(s.thread i).pc]? = some op)
    (arrived : op = .barrier → ∀ j, (s.thread i).pc ≤ (s.thread j).pc) :
    ∃ s', Alone prog copies i s s' ∧ (s'.thread i).pc = (s.thread i).pc + 1 := by
  obtain ⟨s₁, lands, landed, pc₁⟩ := alone_lands prog copies (i := i) _ s rfl
  obtain ⟨s₂, retires, drained, pc₂⟩ := alone_retires prog copies (i := i) _ s₁ rfl landed
  have quiet := lands.trans prog copies retires
  have pc := pc₂.trans pc₁
  rw [← pc] at here ⊢
  have moves : ∀ t : Thread Addr Val, t.pc = (s₂.thread i).pc + 1 →
      Step prog copies s₂ (s₂.set i t) →
      ∃ s', Alone prog copies i s s' ∧ (s'.thread i).pc = (s₂.thread i).pc + 1 := by
    intro t next step
    have last : Alone prog copies i s₂ (s₂.set i t) :=
      ⟨.single step, fun j other => by simp [State.set, other]⟩
    exact ⟨_, quiet.trans prog copies last, by simpa [State.set]⟩
  cases op with
  | load m => exact moves _ rfl (.load s₂ i m here)
  | fence => exact moves _ rfl (.fence s₂ i here)
  | wait n => exact moves _ rfl (.wait s₂ i n here (by omega))
  | work m => exact moves _ rfl (.work s₂ i m here)
  | barrier =>
    refine moves _ rfl (.barrier s₂ i here fun j => ?_)
    by_cases same : j = i
    · rw [same]
    · rw [quiet.others j same, pc]
      exact arrived rfl j

end Alone

/-- Some run brings every thread to any given operation. -/
theorem exists_level [Fintype T] {n : Nat} (inside : n ≤ prog.length) :
    ∃ s : State T Addr Val, Reachable prog copies s ∧ ∀ i, (s.thread i).pc = n := by
  induction n with
  | zero => exact ⟨⟨fun _ => ⟨0, 0, 0, []⟩, fun _ => none⟩, ⟨_, fun _ => rfl, .refl⟩, fun _ => rfl⟩
  | succ n ih =>
    obtain ⟨s, ⟨start, first, run⟩, level⟩ := ih (by omega)
    have here : prog[n]? = some prog[n] := List.getElem?_eq_getElem inside
    -- the threads pass the operation one after the other
    have passed : ∀ done : Finset T, ∃ s', Relation.ReflTransGen (Step prog copies) s s' ∧
        ∀ i, (s'.thread i).pc = if i ∈ done then n + 1 else n := by
      intro done
      induction done using Finset.induction_on with
      | empty => exact ⟨s, .refl, by simpa using level⟩
      | insert i done fresh ihDone =>
        obtain ⟨s', before, places⟩ := ihDone
        have own : (s'.thread i).pc = n := by rw [places, if_neg fresh]
        have arrived : ∀ j, (s'.thread i).pc ≤ (s'.thread j).pc := by
          intro j
          rw [own, places]
          split <;> omega
        obtain ⟨s'', alone, next⟩ :=
          alone_advances prog copies (by rw [own]; exact here) fun _ => arrived
        refine ⟨s'', before.trans alone.run, fun j => ?_⟩
        by_cases same : j = i
        · rw [same, next, own, if_pos (Finset.mem_insert_self i done)]
        · rw [alone.others j same, places]
          simp [same]
    obtain ⟨s', after, places⟩ := passed Finset.univ
    exact ⟨s', ⟨start, first, run.trans after⟩, fun i => by simpa using places i⟩

end Machine
end AsyncCopy
