import Mathlib
import Glm53Overlay.Library.HeapQueue
import Glm53Overlay.Library.PyDict

/-!
Kernels joined into generation ranges by a sweep over one trace, and the buckets of several
traces merged. Arithmetic is exact.
-/
namespace KernelShare

structure Annotation where
  start : ℚ
  length : ℚ
  label : String
  deriving DecidableEq

structure KernelEvent where
  ts : ℚ
  dur : ℚ
  name : String
  deriving DecidableEq

structure Active where
  stop : ℚ
  start : ℚ
  label : String
  deriving DecidableEq

/-- The order of Python's triples. -/
abbrev Triple := ℚ ×ₗ ℚ ×ₗ String

def Annotation.key (a : Annotation) : Triple := toLex (a.start, toLex (a.length, a.label))

def KernelEvent.key (k : KernelEvent) : Triple := toLex (k.ts, toLex (k.dur, k.name))

def Active.key (a : Active) : Triple := toLex (a.stop, toLex (a.start, a.label))

theorem Annotation.key_injective : Function.Injective Annotation.key := by
  intro a b same
  cases a
  cases b
  unfold Annotation.key at same
  simpa using same

theorem KernelEvent.key_injective : Function.Injective KernelEvent.key := by
  intro a b same
  cases a
  cases b
  simpa [KernelEvent.key] using same

theorem Active.key_injective : Function.Injective Active.key := by
  intro a b same
  cases a
  cases b
  simpa [Active.key] using same

instance : LinearOrder Annotation := LinearOrder.lift' Annotation.key Annotation.key_injective

instance : LinearOrder KernelEvent := LinearOrder.lift' KernelEvent.key KernelEvent.key_injective

instance : LinearOrder Active := LinearOrder.lift' Active.key Active.key_injective

structure Row where
  count : Nat
  totalUs : ℚ
  deriving DecidableEq

structure Bucket where
  kernelUs : ℚ
  kernelCount : Nat
  kernels : PyDict String Row

abbrev Generations := PyDict String Bucket

def emptyRow : Row := ⟨0, 0⟩

def emptyBucket : Bucket := ⟨0, 0, PyDict.empty⟩

def tally (bucket : Bucket) (kernel : KernelEvent) : Bucket :=
  let row := (bucket.kernels.get kernel.name).getD emptyRow
  ⟨bucket.kernelUs + kernel.dur, bucket.kernelCount + 1,
    bucket.kernels.set kernel.name ⟨row.count + 1, row.totalUs + kernel.dur⟩⟩

def assign (out : Generations) (label : String) (kernel : KernelEvent) : Generations :=
  out.set label (tally ((out.get label).getD emptyBucket) kernel)

def Annotation.active (a : Annotation) : Active := ⟨a.start + a.length, a.start, a.label⟩

def admitStarted (ts : ℚ) : List Annotation → List Active → List Annotation × List Active
  | [], heap => ([], heap)
  | a :: pending, heap =>
    if a.start ≤ ts then admitStarted ts pending (HeapQueue.heappush heap a.active)
    else (a :: pending, heap)

/-- `while heap and heap[0][0] < ts: heappop(heap)`. -/
def evict (ts : ℚ) : Nat → List Active → List Active
  | fuel + 1, root :: heap =>
    if root.stop < ts then evict ts fuel (HeapQueue.heappop (root :: heap)) else root :: heap
  | _, heap => heap

/-- `max(heap, key=...)`: the first of the latest starts. -/
def latestStart : List Active → Option Active
  | [] => none
  | root :: rest => some (rest.foldl (fun best a => if best.start < a.start then a else best) root)

structure Sweep where
  pending : List Annotation
  heap : List Active
  out : Generations

def Sweep.moveTo (s : Sweep) (ts : ℚ) : List Annotation × List Active :=
  let (pending, heap) := admitStarted ts s.pending s.heap
  (pending, evict ts heap.length heap)

def Sweep.step (s : Sweep) (kernel : KernelEvent) : Sweep :=
  let (pending, heap) := s.moveTo kernel.ts
  match latestStart heap with
  | none => ⟨pending, heap, s.out⟩
  | some range => ⟨pending, heap, assign s.out range.label kernel⟩

def attributeGenerations (annotations : List Annotation) (kernels : List KernelEvent) :
    Generations :=
  ((kernels.insertionSort (· ≤ ·)).foldl Sweep.step
    ⟨annotations.insertionSort (· ≤ ·), [], PyDict.empty⟩).out

def mergeRow (entry : Option Row) (row : Row) : Row :=
  let entry := entry.getD emptyRow
  ⟨entry.count + row.count, entry.totalUs + row.totalUs⟩

def mergeBucket (merged : Option Bucket) (bucket : Bucket) : Bucket :=
  let merged := merged.getD emptyBucket
  ⟨merged.kernelUs + bucket.kernelUs, merged.kernelCount + bucket.kernelCount,
    merged.kernels.accumulate mergeRow bucket.kernels.entries⟩

def mergeGenerations (target source : Generations) : Generations :=
  target.accumulate mergeBucket source.entries

@[ext] structure Totals where
  kernelUs : ℚ
  kernelCount : Nat
  rows : String → Option Row

def Bucket.totals (bucket : Bucket) : Totals :=
  ⟨bucket.kernelUs, bucket.kernelCount, bucket.kernels.get⟩

def Row.plus (a b : Row) : Row := ⟨a.count + b.count, a.totalUs + b.totalUs⟩

def Totals.plus (a b : Totals) : Totals :=
  ⟨a.kernelUs + b.kernelUs, a.kernelCount + b.kernelCount,
    fun name => Option.merge Row.plus (a.rows name) (b.rows name)⟩

def rowOf (events : List KernelEvent) : Option Row :=
  if events = [] then none else some ⟨events.length, (events.map KernelEvent.dur).sum⟩

def totalsOf (events : List KernelEvent) : Option Totals :=
  if events = [] then none
  else some ⟨(events.map KernelEvent.dur).sum, events.length,
    fun name => rowOf (events.filter fun k => k.name = name)⟩

def totalsAt (out : Generations) (label : String) : Option Totals :=
  (out.get label).map Bucket.totals

instance : Std.Commutative Row.plus :=
  ⟨fun a b => by simp only [Row.plus, add_comm]⟩

instance : Std.Associative Row.plus :=
  ⟨fun a b c => by simp only [Row.plus, add_assoc]⟩

instance : Std.Commutative Totals.plus :=
  ⟨fun a b => by
    have comm := (inferInstance : Std.Commutative (Option.merge Row.plus)).comm
    simp only [Totals.plus, add_comm b.kernelUs, add_comm b.kernelCount, comm (b.rows _)]⟩

instance : Std.Associative Totals.plus :=
  ⟨fun a b c => by
    have assoc := (inferInstance : Std.Associative (Option.merge Row.plus)).assoc
    simp only [Totals.plus, add_assoc, assoc]⟩

end KernelShare
