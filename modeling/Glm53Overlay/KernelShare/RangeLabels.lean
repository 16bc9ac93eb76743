import Mathlib.Data.List.Sort
import Glm53Overlay.Library.HeapQueue
import Glm53Overlay.Library.PyText

/-!
The graph-execution ranges of one trace, in doubles, as far as the labels that kernels are joined
to: the summary reads two numbers in each of them and may raise. A list with a NaN among its times
is sorted by insertion here.
-/
namespace KernelShare

/-- Two numbers and a text, as the tuples of the sweep. -/
structure Stamped where
  first : Float
  second : Float
  text : String

/-- `a < b` of tuples. -/
def Stamped.below (a b : Stamped) : Bool :=
  a.first < b.first || a.first == b.first &&
    (a.second < b.second || a.second == b.second && a.text < b.text)

instance : LT Stamped := ⟨fun a b => a.below b = true⟩

instance : DecidableLT Stamped := fun a b => inferInstanceAs (Decidable (a.below b = true))

def sortStamped (items : List Stamped) : List Stamped := items.insertionSort fun a b => ¬ b < a

def pushStarted (ts : Float) : List Stamped → List Stamped → List Stamped × List Stamped
  | [], heap => ([], heap)
  | range :: pending, heap =>
    if range.first ≤ ts then
      pushStarted ts pending
        (HeapQueue.heappush heap ⟨range.first + range.second, range.first, range.text⟩)
    else (range :: pending, heap)

/-- `while heap and heap[0][0] < ts: heappop(heap)`. -/
def popEnded (ts : Float) : Nat → List Stamped → List Stamped
  | fuel + 1, root :: heap =>
    if root.first < ts then popEnded ts fuel (HeapQueue.heappop (root :: heap)) else root :: heap
  | _, heap => heap

/-- `max(heap, key=lambda item: item[1])`, as far as the label. -/
def latestLabel : List Stamped → Option String
  | [] => none
  | root :: rest =>
    some (rest.foldl (fun best item => if best.second < item.second then item else best) root).text

/-- The labels `_attribute_generations` makes buckets for. -/
def joinedLabels (annotations kernels : List Stamped) : List String :=
  ((sortStamped kernels).foldl (fun sweep kernel =>
    let (pending, heap) := pushStarted kernel.first sweep.1.1 sweep.1.2
    let heap := popEnded kernel.first heap.length heap
    ((pending, heap), sweep.2 ++ (latestLabel heap).toList))
    ((sortStamped annotations, []), [])).2

def isDecimal (c : Char) : Bool := (PyText.decimal c).isSome

/-- The two numbers of `_generation_(\d+)\((\d+)\)` at the start of a text. -/
def generationAt (text : List Char) : Option (List Char × List Char) :=
  let mark := "_generation_".toList
  let seqs := (text.drop mark.length).takeWhile isDecimal
  let after := (text.drop mark.length).dropWhile isDecimal
  let tokens := (after.drop 1).takeWhile isDecimal
  if mark.isPrefixOf text ∧ seqs ≠ [] ∧ after.head? = some '(' ∧ tokens ≠ [] ∧
      ((after.drop 1).dropWhile isDecimal).head? = some ')' then
    some (seqs, tokens)
  else none

/-- Whether `int` takes both numbers of the first match; a label without one is taken. -/
def labelRead (label : String) : Bool :=
  match label.toList.tails.findSome? generationAt with
  | none => true
  | some (seqs, tokens) =>
    seqs.length ≤ PyText.maxStrDigits && tokens.length ≤ PyText.maxStrDigits

example : generationAt "_generation_12(96)".toList = some ("12".toList, "96".toList) := by decide

end KernelShare
