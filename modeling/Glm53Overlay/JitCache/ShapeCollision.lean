import Glm53Overlay.JitCache.ShapeHash

/-!
Which configurations the shape hash determines. Equal hashes leave every knob the same bag of
values; the order of the lines, and who says what, is lost.
-/
namespace JitShape

theorem name_plain (k : Knob) : '=' ∉ k.name.toList := by
  cases k <;> decide

theorem name_injective {j k : Knob} (same : j.name.toList = k.name.toList) : j = k := by
  revert same
  cases j <;> cases k <;> decide

theorem all_knobs (k : Knob) : k ∈ Knob.all := by
  cases k <;> decide

theorem printed_default {k : Knob} (printed : k ∈ Knob.printed) : k.keepsEmpty = false := by
  revert printed
  cases k <;> decide

theorem opening_iff (k : Knob) (l : EnvLine) :
    k.opening.isPrefixOf l.text = true ↔ l.name = k.name.toList := by
  have split : ∀ a b u v : Word, '=' ∉ a → '=' ∉ b → a ++ '=' :: u = b ++ '=' :: v → b = a := by
    intro a
    induction a with
    | nil =>
      intro b u v _ plain same
      cases b with
      | nil => rfl
      | cons d ds =>
        rw [List.nil_append, List.cons_append] at same
        have first := (List.cons.inj same).1
        exact absurd (first ▸ List.mem_cons_self) plain
    | cons c cs ih =>
      intro b u v own plain same
      cases b with
      | nil =>
        rw [List.nil_append, List.cons_append] at same
        have first := (List.cons.inj same).1
        exact absurd (first.symm ▸ List.mem_cons_self) own
      | cons d ds =>
        rw [List.cons_append, List.cons_append] at same
        obtain ⟨first, rest⟩ := List.cons.inj same
        have tail := ih ds u v (fun inside => own (List.mem_cons_of_mem _ inside))
          (fun inside => plain (List.mem_cons_of_mem _ inside)) rest
        rw [first, tail]
  rw [List.isPrefixOf_iff_prefix]
  unfold Knob.opening EnvLine.text
  constructor
  · rintro ⟨rest, same⟩
    rw [List.append_assoc, List.singleton_append] at same
    exact split _ _ _ _ (name_plain k) l.plain same
  · intro same
    refine ⟨l.value, ?_⟩
    rw [same, List.append_assoc, List.singleton_append]

def assigned (k : Knob) (line : Word) : Option Word :=
  if k.opening.isPrefixOf line then some (line.drop k.opening.length) else none

theorem assigned_text (k : Knob) (l : EnvLine) :
    assigned k l.text = if l.name = k.name.toList then some l.value else none := by
  unfold assigned
  by_cases own : l.name = k.name.toList
  · rw [if_pos ((opening_iff k l).mpr own), if_pos own]
    unfold EnvLine.text Knob.opening
    rw [own, ← List.singleton_append (l := l.value), ← List.append_assoc, List.drop_left]
  · rw [if_neg (fun fits => own ((opening_iff k l).mp fits)), if_neg own]

def lineOf (k : Knob) (value : Word) : EnvLine := ⟨k.name.toList, value, name_plain k⟩

theorem line_of_text (k : Knob) (value : Word) : (lineOf k value).text = k.opening ++ value := by
  unfold lineOf EnvLine.text Knob.opening
  rw [List.append_assoc, List.singleton_append]

theorem grep_of_assigned {k : Knob} {line : Word} (given : assigned k line ≠ none) :
    grepKnobs line = true := by
  unfold assigned at given
  split at given
  · rename_i fits
    exact List.any_eq_true.mpr ⟨k, all_knobs k, fits⟩
  · exact absurd rfl given

theorem file_values (c : Config) (k : Knob) :
    ((c.file.map EnvLine.text).filter grepKnobs).filterMap (assigned k) = c.fileValues k := by
  unfold Config.fileValues Config.linesOf
  induction c.file with
  | nil => rfl
  | cons l rest ih =>
    have value := assigned_text k l
    by_cases own : l.name = k.name.toList
    · rw [if_pos own] at value
      have found : grepKnobs l.text = true := grep_of_assigned (k := k) (by rw [value]; simp)
      rw [List.map_cons, List.filter_cons_of_pos found, List.filterMap_cons_some value, ih,
        List.filter_cons_of_pos (by simpa using own), List.map_cons]
    · rw [if_neg own] at value
      rw [List.filter_cons_of_neg (by simpa using own), ← ih, List.map_cons]
      by_cases found : grepKnobs l.text = true
      · rw [List.filter_cons_of_pos found, List.filterMap_cons_none value]
      · rw [List.filter_cons_of_neg found]

def Config.printedValues (c : Config) (k : Knob) : List Word :=
  if k ∈ Knob.printed then [(c.caller k).getD []] else []

theorem printed_values (c : Config) (k : Knob) :
    (Knob.printed.map c.printedLine).filterMap (assigned k) = c.printedValues k := by
  have value : ∀ j, assigned k (c.printedLine j) =
      if j = k then some ((c.caller j).getD []) else none := by
    intro j
    unfold Config.printedLine
    rw [← line_of_text, assigned_text]
    by_cases same : j = k
    · rw [if_pos same, if_pos (by rw [← same]; rfl)]
      rfl
    · have other : (lineOf j ((c.caller j).getD [])).name ≠ k.name.toList :=
        fun names => same (name_injective names)
      rw [if_neg same, if_neg other]
  unfold Config.printedValues
  cases k <;> simp [Knob.printed, value]

theorem values_perm {c c' : Config} (same : c'.shapeHash = c.shapeHash) (k : Knob) :
    (c'.printedValues k ++ c'.fileValues k).Perm (c.printedValues k ++ c.fileValues k) := by
  have lines := ((LineSort.sort_eq_iff _ _).mp same).filterMap (assigned k)
  have parts : ∀ d : Config, d.hashedLines.filterMap (assigned k) =
      d.fileValues k ++ ([launcherLine].filterMap (assigned k) ++ d.printedValues k) := by
    intro d
    unfold Config.hashedLines
    rw [List.filterMap_append, file_values, ← List.singleton_append, List.filterMap_append,
      printed_values]
  have turned : ∀ d : Config, (d.hashedLines.filterMap (assigned k)).Perm
      ([launcherLine].filterMap (assigned k) ++ (d.printedValues k ++ d.fileValues k)) := by
    intro d
    rw [parts]
    exact List.perm_append_comm.trans (List.Perm.of_eq (List.append_assoc _ _ _))
  exact (List.perm_append_left_iff _).mp (((turned c').symm.trans lines).trans (turned c))

theorem sourced_cases (c : Config) (k : Knob) :
    (∃ first rest, c.caller k = some (first :: rest) ∧ c.sourced k = some (first :: rest)) ∨
    ((c.caller k).getD [] = [] ∧ c.sourced k = (c.fileValues k).getLast?.or (c.caller k)) := by
  unfold Config.sourced Config.resolved
  cases caller : c.caller k with
  | none => exact Or.inr ⟨rfl, rfl⟩
  | some value =>
    cases value with
    | nil => exact Or.inr ⟨rfl, rfl⟩
    | cons first rest => exact Or.inl ⟨first, rest, rfl, rfl⟩

theorem printed_sourced {c : Config} {k : Knob} (printed : k ∈ Knob.printed) :
    c.sourced k ∈ c.contenders k ∨ c.contenders k = [] ∧ c.defaulted k = k.default.toList := by
  unfold Config.defaulted Config.contenders
  rw [if_pos printed]
  rcases sourced_cases c k with ⟨first, rest, caller, sourced⟩ | ⟨silent, sourced⟩
  · left
    rw [sourced, caller, Option.getD_some]
    apply List.mem_map_of_mem
    exact (List.mem_erase_of_ne (by simp)).mpr List.mem_cons_self
  · rw [silent, sourced, List.erase_cons_head]
    cases last : (c.fileValues k).getLast? with
    | some value =>
      left
      exact List.mem_map_of_mem (List.mem_of_getLast? last)
    | none =>
      right
      rw [List.getLast?_eq_none_iff.mp last]
      refine ⟨rfl, ?_⟩
      cases caller : c.caller k with
      | none => rfl
      | some value =>
        rw [caller, Option.getD_some] at silent
        rw [silent]
        show (if k.keepsEmpty then [] else k.default.toList) = k.default.toList
        rw [printed_default printed]
        rfl

theorem unprinted_sourced {c : Config} {k : Knob} (unprinted : k ∉ Knob.printed) :
    c.sourced k ∈ c.contenders k := by
  unfold Config.contenders
  rw [if_neg unprinted]
  rcases sourced_cases c k with ⟨first, rest, caller, sourced⟩ | ⟨silent, sourced⟩
  · rw [sourced, caller]
    split
    · simp
    · simp
  · rw [sourced]
    split
    · rename_i empty
      rw [empty]
      simp
    · rename_i lines
      obtain ⟨value, last⟩ := Option.ne_none_iff_exists'.mp
        (fun none => lines (List.getLast?_eq_none_iff.mp none))
      rw [last]
      exact List.mem_append_left _ (List.mem_map_of_mem (List.mem_of_getLast? last))

theorem unprinted_line {c c' : Config} (visible : c'.Visible) {k : Knob}
    (unprinted : k ∉ Knob.printed) (bags : (c'.fileValues k).Perm (c.fileValues k)) :
    c'.sourced k = none ∧ c.fileValues k = [] ∨
      ∃ value ∈ c.fileValues k, c'.sourced k = some value := by
  have other : c'.sourced k = (c'.fileValues k).getLast? := by
    unfold Config.sourced Config.resolved
    rw [visible k unprinted]
    exact Option.or_none
  rw [other]
  cases last : (c'.fileValues k).getLast? with
  | none =>
    rw [List.getLast?_eq_none_iff.mp last] at bags
    exact Or.inl ⟨rfl, bags.symm.eq_nil⟩
  | some value => exact Or.inr ⟨value, bags.mem_iff.mp (List.mem_of_getLast? last), rfl⟩

theorem file_bags {c c' : Config} (same : c'.shapeHash = c.shapeHash) {k : Knob}
    (unprinted : k ∉ Knob.printed) : (c'.fileValues k).Perm (c.fileValues k) := by
  have bags := values_perm same k
  unfold Config.printedValues at bags
  rwa [if_neg unprinted, if_neg unprinted, List.nil_append, List.nil_append] at bags

theorem reads_same {c c' : Config} (settled : c.Settled) (visible : c'.Visible)
    (same : c'.shapeHash = c.shapeHash) (k : Knob) :
    c.reads k (c'.defaulted k) = c.reads k (c.defaulted k) := by
  by_cases printed : k ∈ Knob.printed
  · have bags := values_perm same k
    unfold Config.printedValues at bags
    rw [if_pos printed, if_pos printed, List.singleton_append, List.singleton_append] at bags
    have swapped : (c'.contenders k).Perm (c.contenders k) := by
      unfold Config.contenders
      rw [if_pos printed, if_pos printed]
      exact (bags.erase []).map some
    rcases printed_sourced (c := c) printed with own | ⟨empty, default⟩
    · rcases printed_sourced (c := c') printed with other | ⟨empty', _⟩
      · exact settled.single k _ (swapped.mem_iff.mp other) _ own
      · rw [empty'] at swapped
        rw [swapped.symm.eq_nil] at own
        exact absurd own (by simp)
    · rcases printed_sourced (c := c') printed with other | ⟨_, default'⟩
      · rw [empty] at swapped
        exact absurd (swapped.mem_iff.mp other) (by simp)
      · rw [default, default']
  · apply settled.single k _ ?_ _ (unprinted_sourced printed)
    unfold Config.contenders
    rw [if_neg printed]
    rcases unprinted_line visible printed (file_bags same printed) with
      ⟨unset, empty⟩ | ⟨value, member, found⟩
    · rw [unset, if_pos empty]
      exact List.mem_cons_self
    · rw [found, if_neg (List.ne_nil_of_mem member)]
      exact List.mem_append_left _ (List.mem_map_of_mem member)

theorem reads_method (c : Config) (value : Word) : c.reads .specMethod value = value := rfl

theorem reads_of_method {c c' : Config} {k : Knob} (plain : k ≠ .extraArgs)
    (method : c'.defaulted .specMethod = c.defaulted .specMethod) (value : Word) :
    c'.reads k value = c.reads k value := by
  unfold Config.reads
  rw [if_neg plain, if_neg plain, method]

theorem reads_sized (c : Config) {args : Word} (sized : listsSizes args = true) :
    c.reads .extraArgs args = args := by
  unfold Config.reads Config.withSizes
  rw [if_pos rfl, if_pos sized, ite_self]

theorem settle_args (args : Word) : Knob.extraArgs.settle (some args) = args := by
  cases args <;> rfl

theorem same_shape_of_settled {c c' : Config} (settled : c.Settled) (visible : c'.Visible)
    (same : c'.shapeHash = c.shapeHash) : SameShape c c' := by
  have method : c'.defaulted .specMethod = c.defaulted .specMethod := by
    have ready := reads_same settled visible same .specMethod
    rwa [reads_method, reads_method] at ready
  intro k
  unfold Config.effective
  rw [← reads_same settled visible same k]
  by_cases args : k = .extraArgs
  · subst args
    have unprinted : Knob.extraArgs ∉ Knob.printed := by decide
    obtain ⟨lines, sized⟩ := settled.sized
    rcases unprinted_line visible unprinted (file_bags same unprinted) with
      ⟨_, empty⟩ | ⟨value, member, found⟩
    · exact absurd empty lines
    · have start : c'.defaulted .extraArgs = value := by
        rw [Config.defaulted, found, settle_args]
      rw [start, reads_sized c' (sized value member), reads_sized c (sized value member)]
  · exact reads_of_method args method _

def Config.quieted (c : Config) : Config :=
  { c with caller := fun k => if k ∈ Knob.printed then c.caller k else none }

theorem quieted_visible (c : Config) : c.quieted.Visible := by
  intro k unprinted
  exact if_neg unprinted

theorem hash_of_perm {c d : Config} (file : (d.file.map EnvLine.text).Perm (c.file.map EnvLine.text))
    (caller : ∀ k ∈ Knob.printed, (d.caller k).getD [] = (c.caller k).getD []) :
    d.shapeHash = c.shapeHash := by
  have lines : Knob.printed.map d.printedLine = Knob.printed.map c.printedLine := by
    apply List.map_congr_left
    intro k member
    unfold Config.printedLine
    rw [caller k member]
  apply (LineSort.sort_eq_iff _ _).mpr
  unfold Config.hashedLines
  rw [lines]
  exact (file.filter _).append_right _

theorem quieted_hash (c : Config) : c.quieted.shapeHash = c.shapeHash := by
  apply hash_of_perm (c := c) (d := c.quieted) (List.Perm.refl _)
  intro k printed
  show ((if k ∈ Knob.printed then c.caller k else none) : Option Word).getD [] =
    (c.caller k).getD []
  rw [if_pos printed]

theorem line_at {c : Config} {k : Knob} {value : Word} (member : value ∈ c.fileValues k) :
    ∃ before after, c.file = before ++ lineOf k value :: after := by
  unfold Config.fileValues Config.linesOf at member
  obtain ⟨l, inside, rfl⟩ := List.mem_map.mp member
  obtain ⟨listed, named⟩ := List.mem_filter.mp inside
  obtain ⟨before, after, split⟩ := List.append_of_mem listed
  refine ⟨before, after, ?_⟩
  have own : l.name = k.name.toList := by simpa using named
  have same : l = lineOf k l.value := by
    obtain ⟨name, word, plain⟩ := l
    simp only at own
    subst own
    rfl
  rw [split, ← same]

def Config.movedLast (before after : List EnvLine) (l : EnvLine) (c : Config) : Config :=
  { c.quieted with file := before ++ after ++ [l] }

theorem moved_last_hash {c : Config} {before after : List EnvLine} {l : EnvLine}
    (split : c.file = before ++ l :: after) :
    (c.movedLast before after l).shapeHash = c.shapeHash := by
  rw [← quieted_hash c]
  apply hash_of_perm
  · apply List.Perm.map
    show (before ++ after ++ [l]).Perm c.file
    rw [split]
    exact (List.perm_append_singleton l _).trans List.perm_middle.symm
  · intro k _
    rfl

theorem moved_last_value {c : Config} {k : Knob} {value : Word} {before after : List EnvLine} :
    ((c.movedLast before after (lineOf k value)).fileValues k).getLast? = some value := by
  unfold Config.fileValues Config.linesOf Config.movedLast
  rw [List.filter_append, List.map_append]
  simp [lineOf]

def Config.exchanged (before after : List EnvLine) (k : Knob) (value : Word) (c : Config) :
    Config where
  file := before ++ lineOf k ((c.caller k).getD []) :: after
  caller := fun j => if j = k then some value else c.quieted.caller j
  switches := c.switches

theorem exchanged_caller (c : Config) (k : Knob) (value : Word) (before after : List EnvLine) :
    (c.exchanged before after k value).caller k = some value := if_pos rfl

theorem printed_split {k : Knob} (printed : k ∈ Knob.printed) (c : Config) :
    (Knob.printed.map c.printedLine).Perm
      (c.printedLine k :: (Knob.printed.erase k).map c.printedLine) := by
  rw [← List.map_cons]
  exact (List.perm_cons_erase printed).map _

theorem exchanged_hash {c : Config} {k : Knob} (printed : k ∈ Knob.printed) {value : Word}
    {before after : List EnvLine} (split : c.file = before ++ lineOf k value :: after) :
    (c.exchanged before after k value).shapeHash = c.shapeHash := by
  have found : ∀ v, grepKnobs (lineOf k v).text = true := by
    intro v
    exact List.any_eq_true.mpr ⟨k, all_knobs k, (opening_iff k (lineOf k v)).mpr rfl⟩
  have rest : ((Knob.printed.erase k).map (c.exchanged before after k value).printedLine) =
      (Knob.printed.erase k).map c.printedLine := by
    apply List.map_congr_left
    intro j member
    have distinct : j ≠ k := by
      rintro rfl
      revert member
      cases j <;> decide
    have listed := List.mem_of_mem_erase member
    unfold Config.printedLine Config.exchanged Config.quieted
    simp only [distinct, listed, ↓reduceIte]
  have lines : ∀ (d : Config) (v : Word), d.file = before ++ lineOf k v :: after →
      (Knob.printed.erase k).map d.printedLine = (Knob.printed.erase k).map c.printedLine →
      d.hashedLines.Perm ((lineOf k v).text :: d.printedLine k ::
        ((before.map EnvLine.text).filter grepKnobs ++ (after.map EnvLine.text).filter grepKnobs ++
          [launcherLine] ++ (Knob.printed.erase k).map c.printedLine)) := by
    intro d v file others
    have printer := printed_split printed d
    rw [others] at printer
    unfold Config.hashedLines
    rw [file, List.map_append, List.map_cons, List.filter_append,
      List.filter_cons_of_pos (found v)]
    apply (List.perm_middle.append_right _).trans
    rw [List.cons_append]
    apply List.Perm.cons
    apply ((printer.cons launcherLine).append_left _).trans
    rw [← List.singleton_append, ← List.append_assoc]
    exact List.perm_middle
  apply (LineSort.sort_eq_iff _ _).mpr
  have changed : (c.exchanged before after k value).printedLine k = (lineOf k value).text := by
    rw [line_of_text]
    unfold Config.printedLine
    rw [exchanged_caller, Option.getD_some]
  have kept : c.printedLine k = (lineOf k ((c.caller k).getD [])).text := by
    rw [line_of_text]
    rfl
  have first := lines (c.exchanged before after k value) _ rfl rest
  have second := lines c value split rfl
  rw [changed] at first
  rw [kept] at second
  exact (first.trans (List.Perm.swap _ _ _)).trans second.symm

/-- The hash of the configuration has one shape only. -/
def Config.Determined (c : Config) : Prop :=
  ∀ c' : Config, c'.Visible → c'.shapeHash = c.shapeHash → SameShape c c'

theorem exchanged_visible (c : Config) {k : Knob} (printed : k ∈ Knob.printed) (value : Word)
    (before after : List EnvLine) : (c.exchanged before after k value).Visible := by
  intro j unprinted
  have distinct : j ≠ k := by
    rintro rfl
    exact unprinted printed
  show (if j = k then some value else c.quieted.caller j) = none
  rw [if_neg distinct]
  exact quieted_visible c j unprinted

def Config.Reaches (c : Config) (k : Knob) (value : Word) : Prop :=
  ∃ c' : Config, c'.Visible ∧ c'.shapeHash = c.shapeHash ∧ c'.defaulted k = value

theorem reaches_of_hash {c d : Config} {k : Knob} {value : Word}
    (same : d.shapeHash = c.shapeHash) (reached : d.Reaches k value) : c.Reaches k value := by
  obtain ⟨c', visible, hash, start⟩ := reached
  exact ⟨c', visible, hash.trans same, start⟩

theorem reaches_line {c : Config} {k : Knob} {value : Word}
    (silent : (c.quieted.caller k).getD [] = []) (member : value ∈ c.fileValues k) :
    c.Reaches k (k.settle (some value)) := by
  obtain ⟨before, after, split⟩ := line_at member
  refine ⟨c.movedLast before after (lineOf k value), quieted_visible c, moved_last_hash split, ?_⟩
  have last := @moved_last_value c k value before after
  unfold Config.defaulted
  congr 1
  rcases sourced_cases (c.movedLast before after (lineOf k value)) k with
    ⟨first, rest, caller, _⟩ | ⟨_, sourced⟩
  · have loud : c.quieted.caller k = some (first :: rest) := caller
    rw [loud] at silent
    exact absurd silent (by simp)
  · rw [sourced, last]
    rfl

theorem reaches_printed {c : Config} {k : Knob} (printed : k ∈ Knob.printed) {value : Word}
    (ready : value ∈ ((c.caller k).getD [] :: c.fileValues k).erase []) :
    c.Reaches k (k.settle (some value)) := by
  have own : c.quieted.caller k = c.caller k := if_pos printed
  cases value with
  | cons first rest =>
    have listed := (List.mem_erase_of_ne (by simp)).mp ready
    rcases List.mem_cons.mp listed with caller | member
    · refine ⟨c.quieted, quieted_visible c, quieted_hash c, ?_⟩
      unfold Config.defaulted Config.sourced Config.resolved
      rw [own]
      cases exported : c.caller k with
      | none =>
        rw [exported] at caller
        exact absurd caller (by simp)
      | some word =>
        rw [exported, Option.getD_some] at caller
        rw [← caller]
    · obtain ⟨before, after, split⟩ := line_at member
      refine ⟨c.exchanged before after k (first :: rest),
        exchanged_visible c printed _ before after, exchanged_hash printed split, ?_⟩
      unfold Config.defaulted Config.sourced Config.resolved
      rw [exchanged_caller]
  | nil =>
    cases silent : (c.caller k).getD [] with
    | nil =>
      rw [silent, List.erase_cons_head] at ready
      rw [← own] at silent
      exact reaches_line silent ready
    | cons first rest =>
      rw [silent, List.erase_cons_tail (by simp)] at ready
      have twice := (List.mem_cons.mp ready).resolve_left (by simp)
      have listed := List.mem_of_mem_erase twice
      obtain ⟨before, after, split⟩ := line_at listed
      have hash := exchanged_hash printed split
      have bags := values_perm hash k
      unfold Config.printedValues at bags
      rw [if_pos printed, if_pos printed, List.singleton_append, List.singleton_append,
        silent] at bags
      have quiet : ((c.exchanged before after k []).caller k).getD [] = [] := by
        rw [exchanged_caller]
        rfl
      rw [quiet] at bags
      have left := bags.erase []
      rw [List.erase_cons_head, List.erase_cons_tail (by simp)] at left
      have still : [] ∈ (c.exchanged before after k []).fileValues k :=
        left.mem_iff.mpr (List.mem_cons_of_mem _ twice)
      apply reaches_of_hash hash
      apply reaches_line ?_ still
      show (if k ∈ Knob.printed then (c.exchanged before after k []).caller k else none).getD []
        = []
      rw [if_pos printed]
      exact quiet

theorem reaches_unprinted {c : Config} {k : Knob} (unprinted : k ∉ Knob.printed) {value : Word}
    (member : value ∈ c.fileValues k) : c.Reaches k (k.settle (some value)) := by
  have silent : c.quieted.caller k = none := if_neg unprinted
  apply reaches_line ?_ member
  rw [silent]
  rfl

theorem reaches_default {c : Config} {k : Knob} (unprinted : k ∉ Knob.printed)
    (empty : c.fileValues k = []) : c.Reaches k (k.settle none) := by
  refine ⟨c.quieted, quieted_visible c, quieted_hash c, ?_⟩
  have silent : c.quieted.caller k = none := if_neg unprinted
  have lines : c.quieted.linesOf k.name = [] := empty
  unfold Config.defaulted Config.sourced Config.resolved
  rw [silent, lines]
  rfl

theorem reaches_contender {c : Config} {k : Knob} {x : Option Word} (ready : x ∈ c.contenders k) :
    c.Reaches k (k.settle x) ∨ k.settle x = c.defaulted k := by
  unfold Config.contenders at ready
  by_cases printed : k ∈ Knob.printed
  · rw [if_pos printed] at ready
    obtain ⟨value, member, rfl⟩ := List.mem_map.mp ready
    exact Or.inl (reaches_printed printed member)
  rw [if_neg printed] at ready
  by_cases empty : c.fileValues k = []
  · rw [if_pos empty] at ready
    rcases List.mem_cons.mp ready with rfl | caller
    · exact Or.inl (reaches_default printed empty)
    · right
      have lines : c.linesOf k.name = [] := empty
      rw [List.mem_singleton.mp caller]
      unfold Config.defaulted Config.sourced Config.resolved
      rw [lines]
      cases exported : c.caller k with
      | none => rfl
      | some value =>
        cases value with
        | nil => rfl
        | cons first rest => rfl
  · rw [if_neg empty] at ready
    rcases List.mem_append.mp ready with line | caller
    · obtain ⟨value, member, rfl⟩ := List.mem_map.mp line
      exact Or.inl (reaches_unprinted printed member)
    · right
      obtain ⟨value, member, rfl⟩ := List.mem_map.mp caller
      obtain ⟨exported, loud⟩ := Option.filter_eq_some_iff.mp (Option.mem_toList.mp member)
      unfold Config.defaulted Config.sourced Config.resolved
      rw [exported]
      cases value with
      | nil => simp at loud
      | cons first rest => rfl

def Config.withEager (c : Config) (value : Word) : Config :=
  { c with switches := fun s => if s = .enforceEager then some value else c.switches s }

theorem eager_switch (c : Config) (first : Char) (rest : Word) :
    (c.withEager (first :: rest)).switch .enforceEager = first :: rest := rfl

theorem determined_method {c c' : Config} (determined : c.Determined) (visible : c'.Visible)
    (same : c'.shapeHash = c.shapeHash) : c'.defaulted .specMethod = c.defaulted .specMethod :=
  determined c' visible same .specMethod

theorem determined_reads {c : Config} (determined : c.Determined) {k : Knob}
    (plain : k ≠ .extraArgs) {value : Word} (reached : c.Reaches k value) :
    c.reads k value = c.effective k := by
  obtain ⟨c', visible, same, start⟩ := reached
  rw [← determined c' visible same k, Config.effective, start]
  exact (reads_of_method plain (determined_method determined visible same) value).symm

theorem determined_args {c : Config} (determined : c.Determined) {args : Word}
    (reached : c.Reaches .extraArgs args) :
    listsSizes args = true ∧ c.reads .extraArgs args = c.effective .extraArgs := by
  obtain ⟨c', visible, same, start⟩ := reached
  have forced : ∀ first rest, (c'.withEager (first :: rest)).reads .extraArgs args =
      c.effective .extraArgs := by
    intro first rest
    rw [← determined (c'.withEager (first :: rest)) visible same .extraArgs, Config.effective]
    have begins : (c'.withEager (first :: rest)).defaulted .extraArgs = args := start
    rw [begins]
  have eager : args = c.effective .extraArgs := by
    have on : (c'.withEager ['1']).switch .enforceEager = "1".toList := eager_switch c' '1' []
    rw [← forced '1' []]
    unfold Config.reads Config.withSizes
    rw [if_pos rfl, if_pos on]
  have graphs := forced '0' []
  unfold Config.reads Config.withSizes at graphs
  have lazy : ¬ (c'.withEager ['0']).switch .enforceEager = "1".toList := by
    rw [eager_switch]
    decide
  rw [if_pos rfl, if_neg lazy, ← eager] at graphs
  have sized : listsSizes args = true := by
    by_contra unsized
    rw [if_neg unsized] at graphs
    have longer := congrArg List.length graphs
    have added : 0 < (c'.withEager ['0']).captureSizes.toList.length := by
      unfold Config.captureSizes
      split
      · split <;> decide
      · decide
    rw [List.length_append] at longer
    split at longer
    · rename_i none
      rw [none] at longer
      simp only [List.length_nil] at longer
      omega
    · rw [List.length_append] at longer
      omega
  exact ⟨sized, (reads_sized c sized).trans eager⟩

theorem settled_of_determined {c : Config} (determined : c.Determined) : c.Settled := by
  have force : ∀ k, ∀ x ∈ c.contenders k, c.reads k (k.settle x) = c.effective k := by
    intro k x ready
    rcases reaches_contender ready with reached | own
    · by_cases args : k = .extraArgs
      · subst args
        exact (determined_args determined reached).2
      · exact determined_reads determined args reached
    · rw [own]
      rfl
  have unprinted : Knob.extraArgs ∉ Knob.printed := by decide
  refine ⟨fun k x left y right => by rw [force k x left, force k y right], ?_, ?_⟩
  · intro empty
    have sized := (determined_args determined (reaches_default unprinted empty)).1
    revert sized
    decide
  · intro args member
    have sized := (determined_args determined (reaches_unprinted unprinted member)).1
    rwa [settle_args] at sized

/-- Two spellings of a number, and extra arguments with their sizes, are settled. -/
example : Config.Settled ⟨[lineOf .maxNumSeqs ['4'], lineOf .maxNumSeqs ['0', '4'],
    lineOf .extraArgs "--cudagraph-capture-sizes 1 2 4 8 16 24 32".toList], fun _ => none,
    fun _ => none⟩ := by
  constructor
  · intro k
    cases k <;> decide
  · decide

/-- A file with one line; the caller exports at most `MAX_NUM_SEQS` and `GLM53_ADAPTIVE_K`. -/
def sampleConfig (seqs adaptiveK : Option Word) : Config where
  file := [lineOf .maxNumSeqs ['4']]
  caller := fun k => if k = .maxNumSeqs then seqs else none
  switches := fun s => if s = .adaptiveK then adaptiveK else none

end JitShape
