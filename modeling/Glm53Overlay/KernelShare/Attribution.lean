import Glm53Overlay.KernelShare.Generations

/-!
The sweep against the definition it computes: the heap holds the ranges around the present kernel,
so its latest start is the latest start among them. Ties of the start are decided by the heap's
list, which is not an order of the ranges.
-/
namespace KernelShare
open HeapQueue

def Encloses (ts : ℚ) (a : Annotation) : Prop := a.start ≤ ts ∧ ts ≤ a.start + a.length

/-- A range around `ts` with the greatest start. -/
def Latest (annotations : List Annotation) (ts : ℚ) (a : Annotation) : Prop :=
  (a ∈ annotations ∧ Encloses ts a) ∧
    ∀ b ∈ annotations, Encloses ts b → b.start ≤ a.start

/-- Of these, one with the smallest end. -/
def Innermost (annotations : List Annotation) (ts : ℚ) (a : Annotation) : Prop :=
  Latest annotations ts a ∧
    ∀ b, Latest annotations ts b → a.start + a.length ≤ b.start + b.length

/-- Ranges tied at the greatest start carry the label of an innermost one. -/
def TiesAgree (annotations : List Annotation) (ts : ℚ) : Prop :=
  ∀ b, Latest annotations ts b → ∃ a, Innermost annotations ts a ∧ a.label = b.label

section Heap
variable {ts now : ℚ}

theorem stop_le_of_le {a b : Active} (le : a ≤ b) : a.stop ≤ b.stop := by
  have keys : a.key ≤ b.key := le
  rcases (Prod.Lex.le_iff).mp keys with less | same
  · exact le_of_lt less
  · exact le_of_eq same.1

theorem start_le_of_le {a b : Annotation} (le : a ≤ b) : a.start ≤ b.start := by
  have keys : a.key ≤ b.key := le
  rcases (Prod.Lex.le_iff).mp keys with less | same
  · exact le_of_lt less
  · exact le_of_eq same.1

theorem ts_le_of_le {a b : KernelEvent} (le : a ≤ b) : a.ts ≤ b.ts := by
  have keys : a.key ≤ b.key := le
  rcases (Prod.Lex.le_iff).mp keys with less | same
  · exact le_of_lt less
  · exact le_of_eq same.1

theorem evict_spec (fuel : Nat) : ∀ heap : List Active, heap.length ≤ fuel → Ordered heap →
    Ordered (evict ts fuel heap) ∧
      (evict ts fuel heap).Perm (heap.filter fun a => ts ≤ a.stop) := by
  induction fuel with
  | zero =>
    intro heap bound ordered
    obtain rfl : heap = [] := List.length_eq_zero_iff.mp (by omega)
    exact ⟨ordered_nil, List.Perm.refl []⟩
  | succ fuel ih =>
    intro heap bound ordered
    cases heap with
    | nil => exact ⟨ordered_nil, List.Perm.refl []⟩
    | cons root rest =>
      have popped := heappop_perm root rest
      have size := popped.length_eq
      rw [List.length_cons] at bound
      unfold evict
      split
      · rename_i expired
        obtain ⟨kept, same⟩ := ih (heappop (root :: rest)) (by omega) (heappop_ordered ordered)
        refine ⟨kept, same.trans ?_⟩
        rw [List.filter_cons_of_neg (by simpa using expired)]
        exact popped.filter _
      · rename_i current
        refine ⟨ordered, ?_⟩
        have all : ∀ a ∈ root :: rest, decide (ts ≤ a.stop) = true := by
          intro a member
          have above := stop_le_of_le (root_least ordered member)
          exact decide_eq_true (le_trans (le_of_not_gt current) above)
        rw [List.filter_eq_self.mpr all]

theorem admit_spec (pending : List Annotation) : ∀ heap : List Active,
    pending.Pairwise (· ≤ ·) → Ordered heap →
    ∃ taken, taken ++ (admitStarted ts pending heap).1 = pending ∧ (∀ a ∈ taken, a.start ≤ ts) ∧
      (∀ a ∈ (admitStarted ts pending heap).1, ts < a.start) ∧
      Ordered (admitStarted ts pending heap).2 ∧
      (admitStarted ts pending heap).2.Perm (taken.map Annotation.active ++ heap) := by
  induction pending with
  | nil =>
    intro heap _ ordered
    exact ⟨[], rfl, fun _ none => absurd none List.not_mem_nil,
      fun _ none => absurd none List.not_mem_nil, ordered, List.Perm.refl heap⟩
  | cons a pending ih =>
    intro heap sorted ordered
    obtain ⟨first, later⟩ := List.pairwise_cons.mp sorted
    unfold admitStarted
    split
    · rename_i started
      obtain ⟨taken, split', before, after, kept, same⟩ :=
        ih (heappush heap a.active) later (heappush_ordered ordered a.active)
      refine ⟨a :: taken, congrArg (a :: ·) split', ?_, after, kept, same.trans ?_⟩
      · intro b member
        rcases List.mem_cons.mp member with rfl | inTaken
        · exact started
        · exact before b inTaken
      · refine ((heappush_perm heap a.active).append_left _).trans ?_
        exact List.perm_middle
    · rename_i waiting
      refine ⟨[], rfl, fun _ none => absurd none List.not_mem_nil, ?_, ordered,
        List.Perm.refl heap⟩
      intro b member
      rcases List.mem_cons.mp member with rfl | inPending
      · exact lt_of_not_ge waiting
      · exact lt_of_lt_of_le (lt_of_not_ge waiting) (start_le_of_le (first b inPending))

theorem latestStart_spec {heap : List Active} :
    (latestStart heap = none ↔ heap = []) ∧
      ∀ best, latestStart heap = some best → best ∈ heap ∧ ∀ a ∈ heap, a.start ≤ best.start := by
  have scan (rest : List Active) : ∀ root : Active,
      let best := rest.foldl (fun best a => if best.start < a.start then a else best) root
      best ∈ root :: rest ∧ ∀ a ∈ root :: rest, a.start ≤ best.start := by
    induction rest with
    | nil =>
      intro root
      simp
    | cons next rest ih =>
      intro root
      by_cases later : root.start < next.start
      · obtain ⟨member, greatest⟩ := ih next
        simp only [List.foldl_cons, if_pos later]
        refine ⟨List.mem_cons_of_mem root member, ?_⟩
        intro a inList
        rcases List.mem_cons.mp inList with rfl | inRest
        · exact le_trans (le_of_lt later) (greatest next List.mem_cons_self)
        · exact greatest a inRest
      · obtain ⟨member, greatest⟩ := ih root
        simp only [List.foldl_cons, if_neg later]
        constructor
        · rcases List.mem_cons.mp member with same | inRest
          · exact List.mem_cons.mpr (Or.inl same)
          · exact List.mem_cons_of_mem root (List.mem_cons_of_mem next inRest)
        · intro a inList
          rcases List.mem_cons.mp inList with rfl | inRest
          · exact greatest a List.mem_cons_self
          · rcases List.mem_cons.mp inRest with rfl | deeper
            · exact le_trans (le_of_not_gt later) (greatest root List.mem_cons_self)
            · exact greatest a (List.mem_cons_of_mem root deeper)
  cases heap with
  | nil =>
    constructor
    · simp [latestStart]
    · intro best none
      cases none
  | cons root rest =>
    constructor
    · simp [latestStart]
    · intro best found
      cases found
      exact scan rest root

end Heap

structure Tracks (annotations : List Annotation) (now : ℚ) (s : Sweep) : Prop where
  sorted : s.pending.Pairwise (· ≤ ·)
  ordered : Ordered s.heap
  split : ∃ started, started ++ s.pending = annotations ∧ (∀ a ∈ started, a.start ≤ now) ∧
    s.heap.Perm ((started.map Annotation.active).filter fun a => now ≤ a.stop)

section Sweep
variable {annotations : List Annotation} {now ts : ℚ} {s : Sweep}

theorem Tracks.moveTo (tracks : Tracks annotations now s) (later : now ≤ ts) :
    Tracks annotations ts ⟨(s.moveTo ts).1, (s.moveTo ts).2, s.out⟩ ∧
      ∀ a ∈ (s.moveTo ts).1, ts < a.start := by
  obtain ⟨sorted, ordered, started, split, before, same⟩ := tracks
  obtain ⟨taken, cut, began, waits, kept, held⟩ := @admit_spec ts s.pending s.heap sorted
    ordered
  obtain ⟨clean, left⟩ := @evict_spec ts _ (admitStarted ts s.pending s.heap).2 (Nat.le_refl _)
    kept
  refine ⟨⟨?_, clean, started ++ taken, ?_, ?_, ?_⟩, waits⟩
  · rw [← cut] at sorted
    exact (List.pairwise_append.mp sorted).2.1
  · rw [List.append_assoc, ← split, ← cut]
    rfl
  · intro a member
    rcases List.mem_append.mp member with old | new
    · exact le_trans (before a old) later
    · exact began a new
  · refine left.trans ((held.filter _).trans ?_)
    rw [List.filter_append, List.map_append, List.filter_append]
    refine List.perm_append_comm.trans (List.Perm.append_right _ ?_)
    refine (same.filter _).trans ?_
    rw [List.filter_filter]
    refine List.Perm.of_eq (List.filter_congr fun a _ => ?_)
    by_cases current : ts ≤ a.stop
    · simp [current, le_trans later current]
    · simp [current]

theorem mem_tracked (tracks : Tracks annotations now s) (waits : ∀ a ∈ s.pending, now < a.start)
    (x : Active) : x ∈ s.heap ↔ ∃ a ∈ annotations, Encloses now a ∧ a.active = x := by
  obtain ⟨sorted, ordered, started, split, before, same⟩ := tracks
  rw [same.mem_iff, List.mem_filter, List.mem_map, ← split]
  constructor
  · rintro ⟨⟨a, member, rfl⟩, open'⟩
    exact ⟨a, List.mem_append_left _ member, ⟨before a member, of_decide_eq_true open'⟩, rfl⟩
  · rintro ⟨a, member, encloses, rfl⟩
    rcases List.mem_append.mp member with old | new
    · exact ⟨⟨a, old, rfl⟩, decide_eq_true encloses.2⟩
    · exact absurd encloses.1 (not_le.mpr (waits a new))

structure Chosen (annotations : List Annotation) (ts : ℚ) (label : Option String) : Prop where
  dropped : label = none ↔ ∀ a ∈ annotations, ¬ Encloses ts a
  latest : ∀ l ∈ label, ∃ a, Latest annotations ts a ∧ a.label = l

theorem chosen_of_heap (tracks : Tracks annotations now s)
    (waits : ∀ a ∈ s.pending, now < a.start) :
    Chosen annotations now ((latestStart s.heap).map Active.label) := by
  have held := mem_tracked tracks waits
  obtain ⟨empty, greatest⟩ := @latestStart_spec s.heap
  constructor
  · rw [Option.map_eq_none_iff, empty, List.eq_nil_iff_forall_not_mem]
    constructor
    · intro nobody a member encloses
      exact nobody a.active ((held _).mpr ⟨a, member, encloses, rfl⟩)
    · intro nobody x member
      obtain ⟨a, inList, encloses, _⟩ := (held x).mp member
      exact nobody a inList encloses
  · intro l found
    obtain ⟨best, top, rfl⟩ := Option.map_eq_some_iff.mp (Option.mem_def.mp found)
    obtain ⟨member, above⟩ := greatest best top
    obtain ⟨a, inList, encloses, same⟩ := (held best).mp member
    refine ⟨a, ⟨⟨inList, encloses⟩, ?_⟩, by rw [← same]; rfl⟩
    intro b other inside
    have below := above b.active ((held _).mpr ⟨b, other, inside, rfl⟩)
    rw [← same] at below
    exact below

end Sweep

def put (out : Generations) (assigned : KernelEvent × Option String) : Generations :=
  match assigned.2 with
  | none => out
  | some label => assign out label assigned.1

theorem step_eq (s : Sweep) (kernel : KernelEvent) :
    s.step kernel = ⟨(s.moveTo kernel.ts).1, (s.moveTo kernel.ts).2,
      put s.out (kernel, (latestStart (s.moveTo kernel.ts).2).map Active.label)⟩ := by
  unfold Sweep.step put
  simp only
  cases latestStart (s.moveTo kernel.ts).2 <;> rfl

theorem sweep_assigns {annotations : List Annotation} (kernels : List KernelEvent) :
    ∀ (now : ℚ) (s : Sweep), Tracks annotations now s → kernels.Pairwise (· ≤ ·) →
    (∀ k ∈ kernels, now ≤ k.ts) →
    ∃ assigned : List (KernelEvent × Option String), assigned.map Prod.fst = kernels ∧
      (∀ e ∈ assigned, Chosen annotations e.1.ts e.2) ∧
      (kernels.foldl Sweep.step s).out = assigned.foldl put s.out := by
  induction kernels with
  | nil =>
    intro now s _ _ _
    exact ⟨[], rfl, fun _ none => absurd none List.not_mem_nil, rfl⟩
  | cons kernel rest ih =>
    intro now s tracks sorted later
    obtain ⟨first, others⟩ := List.pairwise_cons.mp sorted
    obtain ⟨moved, waits⟩ := tracks.moveTo (later kernel List.mem_cons_self)
    have chosen := chosen_of_heap moved waits
    rw [List.foldl_cons, step_eq]
    let label := (latestStart (s.moveTo kernel.ts).2).map Active.label
    obtain ⟨assigned, listed, all, same⟩ := ih kernel.ts
      ⟨(s.moveTo kernel.ts).1, (s.moveTo kernel.ts).2, put s.out (kernel, label)⟩
      ⟨moved.sorted, moved.ordered, moved.split⟩ others
      (fun k member => ts_le_of_le (first k member))
    refine ⟨(kernel, label) :: assigned, ?_, ?_, same⟩
    · rw [List.map_cons, listed]
    · intro e member
      rcases List.mem_cons.mp member with rfl | inRest
      · exact chosen
      · exact all e inRest

section Buckets

theorem rowOf_append (events : List KernelEvent) (k : KernelEvent) :
    rowOf (events ++ [k]) = some ⟨((rowOf events).getD emptyRow).count + 1,
      ((rowOf events).getD emptyRow).totalUs + k.dur⟩ := by
  cases events with
  | nil => simp [rowOf, emptyRow]
  | cons first rest => simp [rowOf, add_assoc]

theorem totalsOf_append (events : List KernelEvent) (k : KernelEvent) {old : Option Bucket}
    (same : old.map Bucket.totals = totalsOf events) :
    some (tally (old.getD emptyBucket) k).totals = totalsOf (events ++ [k]) := by
  have known : (old.getD emptyBucket).totals = ⟨(events.map KernelEvent.dur).sum, events.length,
      fun name => rowOf (events.filter fun k => k.name = name)⟩ := by
    cases old with
    | none =>
      have empty : events = [] := by
        by_contra more
        simp [totalsOf, more] at same
      subst empty
      rfl
    | some bucket =>
      have more : events ≠ [] := by
        intro empty
        simp [totalsOf, empty] at same
      simpa [totalsOf, more] using same
  have us := congrArg Totals.kernelUs known
  have count := congrArg Totals.kernelCount known
  have rows (name : String) := congrFun (congrArg Totals.rows known) name
  simp only [Bucket.totals] at us count rows
  unfold totalsOf
  rw [if_neg (by simp)]
  refine congrArg some (Totals.ext ?_ ?_ ?_)
  · simp [Bucket.totals, tally, us]
  · simp [Bucket.totals, tally, count]
  · funext name
    simp only [Bucket.totals, tally, rows, List.filter_append]
    by_cases own : k.name = name
    · subst own
      rw [PyDict.get_set_same, List.filter_cons_of_pos (by simp), List.filter_nil, rowOf_append]
    · rw [PyDict.get_set_other _ _ (Ne.symm own), List.filter_cons_of_neg (by simpa using own),
        List.filter_nil, List.append_nil, rows]

def labelled (assigned : List (KernelEvent × Option String)) (label : String) :
    List KernelEvent := (assigned.filter fun e => e.2 = some label).map Prod.fst

theorem labelled_append (seen : List (KernelEvent × Option String))
    (e : KernelEvent × Option String) (label : String) :
    labelled (seen ++ [e]) label =
      labelled seen label ++ if e.2 = some label then [e.1] else [] := by
  unfold labelled
  rw [List.filter_append, List.map_append]
  split <;> simp_all

theorem put_totals {out : Generations} {seen : List (KernelEvent × Option String)}
    (now : ∀ label, totalsAt out label = totalsOf (labelled seen label))
    (e : KernelEvent × Option String) (label : String) :
    totalsAt (put out e) label = totalsOf (labelled (seen ++ [e]) label) := by
  obtain ⟨k, assigned⟩ := e
  rw [labelled_append]
  cases assigned with
  | none => simpa [put] using now label
  | some own =>
    by_cases same : own = label
    · subst same
      have added := totalsOf_append (labelled seen own) k (now own)
      simpa [put, assign, totalsAt] using added
    · have kept := now label
      simpa [put, assign, totalsAt, PyDict.get_set_other _ _ (Ne.symm same), same] using kept

theorem foldl_put_totals (rest : List (KernelEvent × Option String)) :
    ∀ (out : Generations) (seen : List (KernelEvent × Option String)),
    (∀ label, totalsAt out label = totalsOf (labelled seen label)) →
    ∀ label, totalsAt (rest.foldl put out) label = totalsOf (labelled (seen ++ rest) label) := by
  induction rest with
  | nil =>
    intro out seen now label
    simpa using now label
  | cons e rest ih =>
    intro out seen now label
    have later := ih (put out e) (seen ++ [e]) (put_totals now e) label
    simpa using later

theorem mergeBucket_totals (merged : Option Bucket) (bucket : Bucket) :
    some (mergeBucket merged bucket).totals =
      Option.merge Totals.plus (merged.map Bucket.totals) (some bucket.totals) := by
  have rows (old : PyDict String Row) (name : String) :
      (old.accumulate mergeRow bucket.kernels.entries).get name =
        Option.merge Row.plus (old.get name) (bucket.kernels.get name) := by
    rw [PyDict.get_accumulate]
    cases bucket.kernels.get name with
    | none => simp
    | some row =>
      cases old.get name with
      | none => simp [mergeRow, emptyRow]
      | some entry => simp [mergeRow, Row.plus]
  cases merged with
  | none =>
    rw [Option.map_none, Option.merge_none_left]
    refine congrArg some (Totals.ext ?_ ?_ ?_)
    · simp [mergeBucket, Bucket.totals, emptyBucket]
    · simp [mergeBucket, Bucket.totals, emptyBucket]
    · funext name
      simp only [mergeBucket, Bucket.totals, Option.getD_none, rows]
      simp [emptyBucket, PyDict.get, PyDict.empty]
  | some old =>
    rw [Option.map_some, Option.merge_some_some]
    refine congrArg some (Totals.ext rfl rfl ?_)
    funext name
    simp only [mergeBucket, Bucket.totals, Option.getD_some, rows, Totals.plus]

theorem mergeGenerations_totals (target source : Generations) (label : String) :
    totalsAt (mergeGenerations target source) label =
      Option.merge Totals.plus (totalsAt target label) (totalsAt source label) := by
  unfold mergeGenerations totalsAt
  rw [PyDict.get_accumulate]
  cases source.get label with
  | none => simp
  | some bucket => exact mergeBucket_totals (target.get label) bucket

theorem foldl_merge_totals (traces : List Generations) (label : String) :
    ∀ target : Generations, totalsAt (traces.foldl mergeGenerations target) label =
      (traces.map fun trace => totalsAt trace label).foldl (Option.merge Totals.plus)
        (totalsAt target label) := by
  induction traces with
  | nil =>
    intro target
    rfl
  | cons trace rest ih =>
    intro target
    rw [List.foldl_cons, ih, mergeGenerations_totals, List.map_cons, List.foldl_cons]

theorem foldl_merge_perm {traces traces' : List Generations} (same : traces.Perm traces')
    (target : Generations) (label : String) :
    totalsAt (traces.foldl mergeGenerations target) label =
      totalsAt (traces'.foldl mergeGenerations target) label := by
  rw [foldl_merge_totals, foldl_merge_totals]
  have commutes : RightCommutative (Option.merge Totals.plus) := by
    constructor
    intro a b c
    have assoc := (inferInstance : Std.Associative (Option.merge Totals.plus)).assoc
    have comm := (inferInstance : Std.Commutative (Option.merge Totals.plus)).comm
    rw [assoc, assoc, comm b]
  exact (same.map _).foldl_eq _

end Buckets

theorem insertionSort_congr {α : Type*} [LinearOrder α] {xs ys : List α} (same : xs.Perm ys) :
    xs.insertionSort (· ≤ ·) = ys.insertionSort (· ≤ ·) := by
  have perm : (xs.insertionSort (· ≤ ·)).Perm (ys.insertionSort (· ≤ ·)) :=
    ((List.perm_insertionSort _ xs).trans same).trans (List.perm_insertionSort _ ys).symm
  exact perm.eq_of_pairwise' (List.pairwise_insertionSort (· ≤ ·) xs)
    (List.pairwise_insertionSort (· ≤ ·) ys)

/-- The kernels are split over the labels, by a rule on each kernel's time, and the buckets hold
    the sums over the kernels of each label. -/
def Attributed (annotations : List Annotation) (kernels : List KernelEvent)
    (rule : ℚ → Option String → Prop) : Prop :=
  ∃ assigned : List (KernelEvent × Option String), (assigned.map Prod.fst).Perm kernels ∧
    (∀ e ∈ assigned, rule e.1.ts e.2) ∧
    ∀ label, totalsAt (attributeGenerations annotations kernels) label =
      totalsOf (labelled assigned label)

/-- The quadratic definition: an innermost enclosing range's label, none without a range. -/
structure ByInnermost (annotations : List Annotation) (ts : ℚ) (label : Option String) :
    Prop where
  dropped : label = none ↔ ∀ a ∈ annotations, ¬ Encloses ts a
  innermost : ∀ l ∈ label, ∃ a, Innermost annotations ts a ∧ a.label = l

theorem Chosen.byInnermost {annotations : List Annotation} {ts : ℚ} {label : Option String}
    (chosen : Chosen annotations ts label) (agree : TiesAgree annotations ts) :
    ByInnermost annotations ts label := by
  constructor
  · exact chosen.dropped
  · intro l found
    obtain ⟨b, latest, rfl⟩ := chosen.latest l found
    exact agree b latest

theorem latest_congr {annotations annotations' : List Annotation}
    (same : ∀ a, a ∈ annotations ↔ a ∈ annotations') (ts : ℚ) (a : Annotation) :
    Latest annotations ts a ↔ Latest annotations' ts a := by
  simp only [Latest, same]

theorem Chosen.congr {annotations annotations' : List Annotation} {ts : ℚ}
    {label : Option String} (same : ∀ a, a ∈ annotations ↔ a ∈ annotations')
    (chosen : Chosen annotations ts label) : Chosen annotations' ts label := by
  constructor
  · rw [chosen.dropped]
    simp only [same]
  · intro l found
    obtain ⟨a, latest, label⟩ := chosen.latest l found
    exact ⟨a, (latest_congr same ts a).mp latest, label⟩

theorem attributed_latest (annotations : List Annotation) (kernels : List KernelEvent) :
    Attributed annotations kernels (Chosen annotations) := by
  have perm := List.perm_insertionSort (· ≤ ·) kernels
  have same (a : Annotation) :
      a ∈ annotations.insertionSort (· ≤ ·) ↔ a ∈ annotations :=
    (List.perm_insertionSort (· ≤ ·) annotations).mem_iff
  have start : ∃ now, ∀ k ∈ kernels.insertionSort (· ≤ ·), now ≤ k.ts := by
    cases sorted : kernels.insertionSort (· ≤ ·) with
    | nil => exact ⟨0, fun _ none => absurd none List.not_mem_nil⟩
    | cons first rest =>
      have ordered := List.pairwise_insertionSort (· ≤ ·) kernels
      rw [sorted] at ordered
      refine ⟨first.ts, fun k member => ?_⟩
      rcases List.mem_cons.mp member with rfl | inRest
      · exact le_refl _
      · exact ts_le_of_le ((List.pairwise_cons.mp ordered).1 k inRest)
  obtain ⟨now, later⟩ := start
  have tracks : Tracks (annotations.insertionSort (· ≤ ·)) now
      ⟨annotations.insertionSort (· ≤ ·), [], PyDict.empty⟩ := by
    constructor
    · exact List.pairwise_insertionSort (· ≤ ·) annotations
    · exact ordered_nil
    · exact ⟨[], rfl, fun _ none => absurd none List.not_mem_nil, List.Perm.refl []⟩
  obtain ⟨assigned, listed, chosen, folded⟩ := sweep_assigns (kernels.insertionSort (· ≤ ·)) now _
    tracks (List.pairwise_insertionSort (· ≤ ·) kernels) later
  refine ⟨assigned, listed ▸ perm, fun e member => (chosen e member).congr same, ?_⟩
  intro label
  unfold attributeGenerations
  rw [folded]
  exact foldl_put_totals assigned PyDict.empty [] (fun _ => rfl) label

/-- Every kernel goes to the label of a range with the greatest start around it, an innermost one
    where tied ranges agree on the label; buckets are sums, and merging adds them. -/
theorem attribution_by_latest_start (annotations : List Annotation) (kernels : List KernelEvent) :
    Attributed annotations kernels (fun ts label => Chosen annotations ts label ∧
      (TiesAgree annotations ts → ByInnermost annotations ts label)) ∧
    (∀ annotations' kernels', annotations.Perm annotations' → kernels.Perm kernels' →
      attributeGenerations annotations kernels = attributeGenerations annotations' kernels') ∧
    (∀ target source label, totalsAt (mergeGenerations target source) label =
      Option.merge Totals.plus (totalsAt target label) (totalsAt source label)) ∧
    ∀ traces traces' : List Generations, traces.Perm traces' → ∀ target label,
      totalsAt (traces.foldl mergeGenerations target) label =
        totalsAt (traces'.foldl mergeGenerations target) label := by
  refine ⟨?_, ?_, mergeGenerations_totals, fun _ _ same => foldl_merge_perm same⟩
  · obtain ⟨assigned, perm, chosen, sums⟩ := attributed_latest annotations kernels
    exact ⟨assigned, perm, fun e member => ⟨chosen e member, (chosen e member).byInnermost⟩, sums⟩
  · intro annotations' kernels' same same'
    unfold attributeGenerations
    rw [insertionSort_congr same, insertionSort_congr same']

def innerRange : Annotation := ⟨3 / 2, 3 / 2, "inner"⟩

def middleRange : Annotation := ⟨3 / 2, 5 / 2, "middle"⟩

/-- Two ranges that end or start earlier, and two that start together. -/
def tiedRanges : List Annotation := [⟨0, 1, "ended"⟩, ⟨0, 2, "outer"⟩, innerRange, middleRange]

def tiedKernel : KernelEvent := ⟨8 / 5, 1, "gemm"⟩

theorem innerRange_latest : Latest tiedRanges tiedKernel.ts innerRange := by
  constructor
  · constructor
    · simp [tiedRanges]
    · norm_num [Encloses, innerRange, tiedKernel]
  · intro b member _
    simp only [tiedRanges, List.mem_cons, List.not_mem_nil, or_false] at member
    rcases member with rfl | rfl | rfl | rfl <;> norm_num [innerRange, middleRange]

theorem innermost_is_inner {a : Annotation} (innermost : Innermost tiedRanges tiedKernel.ts a) :
    a.label = "inner" := by
  obtain ⟨⟨⟨member, _⟩, greatest⟩, least⟩ := innermost
  have late := greatest innerRange innerRange_latest.1.1 innerRange_latest.1.2
  have short := least innerRange innerRange_latest
  simp only [tiedRanges, List.mem_cons, List.not_mem_nil, or_false] at member
  rcases member with rfl | rfl | rfl | rfl
  · norm_num [innerRange] at late
  · norm_num [innerRange] at late
  · rfl
  · norm_num [innerRange, middleRange] at short

/-- The heap's list has the longer of the two tied ranges first. -/
theorem tie_takes_longer : ¬ Attributed tiedRanges [tiedKernel] (ByInnermost tiedRanges) := by
  have empty : "inner" ∉ (attributeGenerations tiedRanges [tiedKernel]).keys := by
    decide +kernel
  rw [← PyDict.get_eq_none_iff] at empty
  rintro ⟨assigned, perm, rule, sums⟩
  obtain ⟨⟨k, label⟩, rfl, own⟩ := List.map_eq_singleton_iff.mp (List.perm_singleton.mp perm)
  have fits := rule (k, label) List.mem_cons_self
  dsimp only at own fits
  subst own
  cases label with
  | none => exact fits.dropped.mp rfl innerRange innerRange_latest.1.1 innerRange_latest.1.2
  | some l =>
    obtain ⟨a, innermost, rfl⟩ := fits.innermost l rfl
    have total := sums a.label
    rw [innermost_is_inner innermost, totalsAt, empty] at total
    simp [labelled, totalsOf] at total

end KernelShare
