import RecordFilter.Proofs.Rearrangement

/-!
# Inputs in two parts

Records can be filtered with one input, and those that are kept with another
one.  This module shows that this is the same in either order, and the same as
filtering once with the merged input.

**Setting.**  No name of the definition has an input in both parts.  The
merged input gives each name what one of the parts gives it.  No checker fails
on the records.

**Order.**  The entries of the definition, and the conditions of its groups, can
stand in any other order, as long as the conditions do not fail on the records.
A group may stop in front of a condition that fails, so that no checker of the
one definition fails, but one of the other.

**Method.**  What a filter keeps does not depend on the order in which its
checkers are asked, and is said of the entries alone.

**Main result.**
* `filter_split`: what is kept by a split input, for all orders of entries
  and conditions.
-/

namespace RecordFilter

open Grammar Interpretation

/-! ## Merged inputs -/

/-- The inputs that a filter is called with.  Called with nothing,
it has none. -/
inductive Value.Supplies : Value → List (Value × Value) → Prop
  | nothing :
      Supplies .none []
  | carried
      {given : Value}
      {inputs : List (Value × Value)}
      (h : given.inputs = .ok inputs) :
      Supplies given inputs

/-- Inputs that give each name of some entries what one of two parts gives it;
no name has an input in both parts. -/
structure Merges (entries inputs inputs' merged : List (Value × Value)) :
    Prop where
  apart : ∀ entry ∈ entries,
    given? entry.1.text? inputs = none ∨ given? entry.1.text? inputs' = none
  given : ∀ entry ∈ entries,
    given? entry.1.text? merged =
      (given? entry.1.text? inputs).or (given? entry.1.text? inputs')

namespace Value

/-- The inputs of two parts, without missing values. -/
def merge (inputs inputs' : List (Value × Value)) : List (Value × Value) :=
  (inputs ++ inputs').filter fun entry => !entry.2.isNone

/-- Inputs in which no name occurs twice. -/
def IsDistinct (inputs : List (Value × Value)) : Prop :=
  inputs.Pairwise fun entry other =>
    ∀ name, entry.1.text? = some name → other.1.text? ≠ some name

theorem field?_append
    (name : String)
    (entries entries' : List (Value × Value)) :
    field? name (entries ++ entries') =
      (field? name entries).or (field? name entries') := by
  unfold field?
  rw [List.find?_append]
  cases entries.find? fun entry => entry.1.text? = some name <;> rfl

/-- What is not the missing value is given if it is there. -/
theorem given?_of_present
    {inputs : List (Value × Value)}
    (h : ∀ entry ∈ inputs, entry.2.isNone = false)
    (name : String) :
    given? (some name) inputs = field? name inputs := by
  rw [given?, Option.bind_some]
  cases hfound : field? name inputs with
  | none => rfl
  | some input =>
      obtain ⟨entry, hentry, rfl⟩ := Option.map_eq_some_iff.mp hfound
      simp [h entry (List.mem_of_find?_eq_some hentry)]

/-- Without the missing values, an input is there if it is given: its name does
not occur again, so nothing comes in the place of a missing value. -/
theorem field?_present
    {inputs : List (Value × Value)}
    (h : IsDistinct inputs)
    (name : String) :
    field? name (inputs.filter fun entry => !entry.2.isNone) =
      given? (some name) inputs := by
  induction inputs with
  | nil => rfl
  | cons entry rest ih =>
      obtain ⟨hfirst, hrest⟩ := List.pairwise_cons.mp h
      rw [given?, Option.bind_some, field?_cons]
      by_cases hname : entry.1.text? = some name
      · have hnothing :
            field? name (rest.filter fun entry => !entry.2.isNone) =
              Option.none := by
          rw [field?, Option.map_eq_none_iff, List.find?_eq_none]
          intro other hmem
          simpa using hfirst other (List.mem_of_mem_filter hmem) name hname
        cases hmissing : entry.2.isNone with
        | true => simp [hname, hmissing, hnothing]
        | false => simp [field?_cons, hname, hmissing]
      · have hothers := ih hrest
        rw [given?, Option.bind_some] at hothers
        cases hmissing : entry.2.isNone <;>
          simp [field?_cons, hname, hmissing, hothers]

theorem merges_merge
    {entries inputs inputs' : List (Value × Value)}
    (h : IsDistinct inputs)
    (h' : IsDistinct inputs')
    (hapart : ∀ entry ∈ entries,
      given? entry.1.text? inputs = Option.none ∨
      given? entry.1.text? inputs' = Option.none) :
    Merges entries inputs inputs' (merge inputs inputs') where
  apart := hapart
  given entry hmem := by
    cases entry.1.text? with
    | none => rfl
    | some name =>
        rw [← field?_present h, ← field?_present h', ← field?_append,
          ← List.filter_append]
        refine given?_of_present (fun entry hentry => ?_) name
        simpa using (List.mem_filter.mp hentry).2

end Value

/-! ## Checks by entries -/

/-- An entry has a check if it has an input: what it compiles to, with
that input. -/
def Strategy.HasCheck
    {γ : Type}
    (s : Strategy γ)
    (inputs : List (Value × Value))
    (entry : Value × Value)
    (check : γ × Value) : Prop :=
  ∃ name, s.Compiles entry (name, check.1) ∧
    given? entry.1.text? inputs = some check.2

theorem Merges.swap
    {entries inputs inputs' merged : List (Value × Value)}
    (h : Merges entries inputs inputs' merged) :
    Merges entries inputs' inputs merged where
  apart entry hmem := (h.apart entry hmem).symm
  given entry hmem := by
    rw [h.given entry hmem]
    rcases h.apart entry hmem with hnone | hnone
    · rw [hnone, Option.none_or, Option.or_none]
    · rw [hnone, Option.none_or, Option.or_none]

theorem Merges.of_rearranges
    {entries entries' inputs inputs' merged : List (Value × Value)}
    (h : Merges entries inputs inputs' merged)
    (hrearranges : Rearranges entries entries') :
    Merges entries' inputs inputs' merged where
  apart entry' hmem' := by
    obtain ⟨entry, hmem, hsame⟩ := hrearranges.exists_left hmem'
    rw [hsame.key]
    exact h.apart entry hmem
  given entry' hmem' := by
    obtain ⟨entry, hmem, hsame⟩ := hrearranges.exists_left hmem'
    rw [hsame.key]
    exact h.given entry hmem

section Checks

variable {γ : Type} {s : Strategy γ}
variable {entries inputs inputs' merged : List (Value × Value)}

/-- The active checkers are the checks of the entries. -/
theorem Strategy.mem_activeAmong_iff
    {compiled : List (Name × γ)}
    {check : γ × Value}
    (hcompiled : List.Forall₂ s.Compiles entries compiled) :
    check ∈ Value.activeAmong compiled inputs ↔
      ∃ entry ∈ entries, s.HasCheck inputs entry check := by
  unfold Value.activeAmong
  rw [List.mem_filterMap]
  constructor
  · rintro ⟨⟨name, checker⟩, hmem, hcheck⟩
    obtain ⟨entry, hentry, hcompiles⟩ :=
      Outcome.forall₂_mem_right hcompiled hmem
    obtain ⟨input, hactive, rfl⟩ := Option.map_eq_some_iff.mp hcheck
    rw [MemoryFilter.active?_eq_given? hcompiles.name] at hactive
    exact ⟨entry, hentry, name, hcompiles, hactive⟩
  · rintro ⟨entry, hentry, name, hcompiles, hgiven⟩
    obtain ⟨named, hmem, hnamed⟩ := Outcome.forall₂_mem_left hcompiled hentry
    refine ⟨named, hmem, ?_⟩
    rw [MemoryFilter.active?_eq_given? hnamed.name, hgiven,
      hnamed.unique hcompiles]
    rfl

theorem Merges.hasCheck_iff
    (h : Merges entries inputs inputs' merged)
    {entry : Value × Value}
    (hmem : entry ∈ entries)
    {check : γ × Value} :
    s.HasCheck merged entry check ↔
      s.HasCheck inputs entry check ∨ s.HasCheck inputs' entry check := by
  unfold Strategy.HasCheck
  rw [h.given entry hmem, ← exists_or]
  refine exists_congr fun name => ?_
  rw [← and_or_left]
  refine and_congr_right fun _ => ?_
  rcases h.apart entry hmem with hnone | hnone
  · simp [hnone]
  · simp [hnone]

end Checks

namespace MemoryFilter

variable {f : MemoryFilter} {s : Strategy Checker}
variable {entries inputs inputs' merged : List (Value × Value)}
variable {records : List Value}

theorem predicate_of_supplies
    {given : Value}
    (h : given.Supplies inputs) :
    f.predicate given = .ok fun record => passes record (f.active inputs) := by
  cases h with
  | nothing =>
      have hactive : f.active [] = [] := by
        simp [active, Value.activeAmong, Value.active?]
      rw [hactive]
      rfl
  | carried h => exact predicate_eq_passes h

theorem passes_asksWhile
    (record : Value) :
    Search.AsksWhile (fun check => check.1 record check.2) true
      (passes record) where
  nil := rfl
  cons check rest := by
    rw [passes]
    congr 1
    funext b
    cases b <;> rfl

/-- No active checker fails on the records. -/
def IsQuiet (f : MemoryFilter) (inputs : List (Value × Value))
    (records : List Value) : Prop :=
  ∀ record ∈ records, ∀ check ∈ f.active inputs, ∃ b,
    (check.1 record check.2).result = .ok b

/-- All checks of an entry accept the record. -/
def Accepts (s : Strategy Checker) (inputs : List (Value × Value))
    (record : Value) (entry : Value × Value) : Prop :=
  ∀ check, s.HasCheck inputs entry check →
    (check.1 record check.2).result = .ok true

open Classical in
/-- The records that all entries accept. -/
noncomputable def kept (s : Strategy Checker)
    (entries inputs : List (Value × Value)) (records : List Value) :
    List Value :=
  records.filter fun record =>
    decide (∀ entry ∈ entries, Accepts s inputs record entry)

theorem filter_eq_kept
    (hcompiled : List.Forall₂ s.Compiles entries f.checkers)
    (hquiet : f.IsQuiet inputs records) :
    (Search.filter (fun record => passes record (f.active inputs))
      records).result = .ok (kept s entries inputs records) := by
  classical
  refine Search.filter_result fun record hrecord => ?_
  have hanswers := fun check hcheck =>
    Search.result_eq_answers (hquiet record hrecord check hcheck)
  rw [(passes_asksWhile record).endsAt.result hanswers]
  refine congrArg Except.ok ?_
  simp only [beq_true]
  rw [Bool.eq_iff_iff, decide_eq_true_iff, List.all_eq_true]
  constructor
  · intro hall entry hentry check hcheck
    have hmem :=
      (Strategy.mem_activeAmong_iff hcompiled).mpr ⟨entry, hentry, hcheck⟩
    rw [hanswers check hmem, hall check hmem]
  · intro hall check hmem
    obtain ⟨entry, hentry, hcheck⟩ :=
      (Strategy.mem_activeAmong_iff hcompiled).mp hmem
    have hanswer := hanswers check hmem
    rw [hall entry hentry check hcheck] at hanswer
    exact (Except.ok.inj hanswer).symm

theorem kept_kept
    (hmerges : Merges entries inputs inputs' merged) :
    kept s entries inputs' (kept s entries inputs records) =
      kept s entries merged records := by
  classical
  unfold kept
  rw [List.filter_filter]
  refine List.filter_congr fun record _ => ?_
  rw [Bool.eq_iff_iff, Bool.and_eq_true, decide_eq_true_iff, decide_eq_true_iff,
    decide_eq_true_iff, ← forall₂_and]
  refine forall₂_congr fun entry hentry => ?_
  unfold Accepts
  rw [← forall_and]
  refine forall_congr' fun check => ?_
  rw [hmerges.hasCheck_iff hentry, or_imp]
  exact And.comm

/-- Filtering with one input and then with another one, in either order, and
filtering with the merged input leaves these records. -/
def SplitsTo (f : MemoryFilter) (first second merged : Value)
    (records kept : List Value) : Prop :=
  ∃ p q both,
    f.predicate first = .ok p ∧ f.predicate second = .ok q ∧
    f.predicate merged = .ok both ∧
    (Search.filter p records >>= Search.filter q).result = .ok kept ∧
    (Search.filter q records >>= Search.filter p).result = .ok kept ∧
    (Search.filter both records).result = .ok kept

theorem IsQuiet.of_merges
    (hquiet : f.IsQuiet merged records)
    (hcompiled : List.Forall₂ s.Compiles entries f.checkers)
    (hmerges : Merges entries inputs inputs' merged) :
    f.IsQuiet inputs records := by
  intro record hrecord check hmem
  obtain ⟨entry, hentry, hcheck⟩ :=
    (Strategy.mem_activeAmong_iff hcompiled).mp hmem
  have hmerged := (hmerges.hasCheck_iff hentry).mpr (Or.inl hcheck)
  exact hquiet record hrecord check
    ((Strategy.mem_activeAmong_iff hcompiled).mpr ⟨entry, hentry, hmerged⟩)

theorem IsQuiet.of_kept
    (hquiet : f.IsQuiet inputs records) :
    f.IsQuiet inputs (kept s entries inputs' records) :=
  fun record hrecord => hquiet record (List.mem_of_mem_filter hrecord)

theorem splitsTo_kept
    {first second both : Value}
    (hcompiled : List.Forall₂ s.Compiles entries f.checkers)
    (hfirst : first.Supplies inputs)
    (hsecond : second.Supplies inputs')
    (hboth : both.Supplies merged)
    (hmerges : Merges entries inputs inputs' merged)
    (hquiet : f.IsQuiet merged records) :
    f.SplitsTo first second both records (kept s entries merged records) := by
  have hquiet₁ : f.IsQuiet inputs records := hquiet.of_merges hcompiled hmerges
  have hquiet₂ : f.IsQuiet inputs' records :=
    hquiet.of_merges hcompiled hmerges.swap
  refine ⟨_, _, _, predicate_of_supplies hfirst, predicate_of_supplies hsecond,
    predicate_of_supplies hboth, ?_, ?_, filter_eq_kept hcompiled hquiet⟩
  · rw [Traced.result_bind, filter_eq_kept hcompiled hquiet₁, Outcome.ok_bind,
      filter_eq_kept hcompiled hquiet₂.of_kept, kept_kept hmerges]
  · rw [Traced.result_bind, filter_eq_kept hcompiled hquiet₂, Outcome.ok_bind,
      filter_eq_kept hcompiled hquiet₁.of_kept, kept_kept hmerges.swap]

/-! ## Definitions in another order -/

/-- No condition of a group fails on the records, with the input
of the group. -/
def ConditionsQuiet (s : Strategy Checker)
    (entries inputs : List (Value × Value)) (records : List Value) : Prop :=
  ∀ record ∈ records, ∀ entry ∈ entries, ∀ condition input,
    s.ConditionOf entry.2 condition → given? entry.1.text? inputs = some input →
      ∃ b, (condition record input).result = .ok b

section Rearranged

variable {registry : Registry MemoryBehaviour} {callbacks : Callbacks}
variable {shape : Shape}
variable {entry entry' : Value × Value} {entries' : List (Value × Value)}
variable {f' : MemoryFilter}

/-- A check of an entry has its counterpart in the rearranged entry. -/
theorem exists_check_of_rearranged
    (h : Rearranged entry entry')
    (hentry : IsEntry shape entry)
    {check : Checker × Value}
    (hcheck :
      (Memory.strategy registry callbacks).HasCheck inputs entry check) :
    ∃ checker,
      (Memory.strategy registry callbacks).HasCheck inputs entry'
        (checker, check.2) ∧
        Memory.Rearranged (Memory.strategy registry callbacks) entry.2 check.1
          checker := by
  obtain ⟨name, hcompiles, hgiven⟩ := hcheck
  obtain ⟨checker, hcompiles', hsame⟩ := h.exists_compiles hentry hcompiles
  exact ⟨checker, ⟨name, hcompiles', by rw [h.key]; exact hgiven⟩, hsame⟩

/-- Each check of the rearranged entry is such a counterpart. -/
theorem exists_check_rearranged
    (h : Rearranged entry entry')
    (hentry : IsEntry shape entry)
    {named : Name × Checker}
    (hcompiles : (Memory.strategy registry callbacks).Compiles entry named)
    {check : Checker × Value}
    (hcheck :
      (Memory.strategy registry callbacks).HasCheck inputs entry' check) :
    ∃ checker,
      (Memory.strategy registry callbacks).HasCheck inputs entry
        (checker, check.2) ∧
        Memory.Rearranged (Memory.strategy registry callbacks) entry.2 checker
          check.1 := by
  obtain ⟨name, hcompiles', hgiven⟩ := hcheck
  obtain ⟨checker, hchecker, hsame⟩ := h.exists_compiles hentry hcompiles
  have hunique : checker = check.1 :=
    congrArg Prod.snd (hchecker.unique hcompiles')
  rw [h.key] at hgiven
  exact ⟨named.2, ⟨named.1, hcompiles, hgiven⟩, hunique ▸ hsame⟩

variable (hgrammar : ∀ entry ∈ entries, IsEntry shape entry)
variable (hcompiled :
  List.Forall₂ (Memory.strategy registry callbacks).Compiles entries f.checkers)
variable (hcompiled' :
  List.Forall₂ (Memory.strategy registry callbacks).Compiles entries'
    f'.checkers)
variable (hrearranges : Rearranges entries entries')
include hgrammar hcompiled hcompiled' hrearranges

/-- Where no condition fails, no checker fails in any order. -/
theorem isQuiet_of_rearranges
    (hquiet : f.IsQuiet inputs records)
    (hconditions :
      ConditionsQuiet (Memory.strategy registry callbacks) entries inputs
        records) :
    f'.IsQuiet inputs records := by
  intro record hrecord check hmem
  obtain ⟨entry', hentry', hcheck'⟩ :=
    (Strategy.mem_activeAmong_iff hcompiled').mp hmem
  obtain ⟨entry, hentry, hsame⟩ := hrearranges.exists_left hentry'
  obtain ⟨named, -, hnamed⟩ := Outcome.forall₂_mem_left hcompiled hentry
  obtain ⟨checker, hcheck, hrearranged⟩ :=
    exists_check_rearranged hsame (hgrammar entry hentry) hnamed hcheck'
  obtain ⟨name, -, hgiven⟩ := id hcheck
  have hanswer := hquiet record hrecord (checker, check.2)
    ((Strategy.mem_activeAmong_iff hcompiled).mpr ⟨entry, hentry, hcheck⟩)
  exact hrearranged.exists_answer hanswer fun condition hcondition =>
    hconditions record hrecord entry hentry condition check.2 hcondition hgiven

/-- Where no checker fails in either order, the same records are kept. -/
theorem kept_of_rearranges
    (hquiet : f.IsQuiet inputs records)
    (hquiet' : f'.IsQuiet inputs records) :
    kept (Memory.strategy registry callbacks) entries' inputs records =
      kept (Memory.strategy registry callbacks) entries inputs records := by
  classical
  refine List.filter_congr fun record hrecord => ?_
  rw [Bool.eq_iff_iff, decide_eq_true_iff, decide_eq_true_iff]
  constructor
  · intro hall entry hentry check hcheck
    obtain ⟨entry', hentry', hsame⟩ := hrearranges.exists_right hentry
    obtain ⟨checker, hcheck', hrearranged⟩ :=
      exists_check_of_rearranged hsame (hgrammar entry hentry) hcheck
    obtain ⟨b, hb⟩ := hquiet record hrecord check
      ((Strategy.mem_activeAmong_iff hcompiled).mpr ⟨entry, hentry, hcheck⟩)
    rw [hb, hrearranged.answers_eq hb (hall entry' hentry' _ hcheck')]
  · intro hall entry' hentry' check hcheck'
    obtain ⟨entry, hentry, hsame⟩ := hrearranges.exists_left hentry'
    obtain ⟨named, -, hnamed⟩ := Outcome.forall₂_mem_left hcompiled hentry
    obtain ⟨checker, hcheck, hrearranged⟩ :=
      exists_check_rearranged hsame (hgrammar entry hentry) hnamed hcheck'
    obtain ⟨b, hb⟩ := hquiet' record hrecord check
      ((Strategy.mem_activeAmong_iff hcompiled').mpr ⟨entry', hentry', hcheck'⟩)
    rw [hb, ← hrearranged.answers_eq (hall entry hentry _ hcheck) hb]

end Rearranged

/-- **Filtering by a split input composes**, in any order of the parts, of the
entries and of the conditions. -/
theorem filter_split
    {registry : Registry MemoryBehaviour}
    {callbacks : Callbacks}
    {shape : Shape}
    {raw first second both : Value}
    (hentries : raw.entries? = some entries)
    (h : define registry callbacks shape raw = .ok f)
    (hfirst : first.Supplies inputs)
    (hsecond : second.Supplies inputs')
    (hboth : both.Supplies merged)
    (hmerges : Merges entries inputs inputs' merged)
    (hquiet : f.IsQuiet merged records) :
    ∃ left, f.SplitsTo first second both records left ∧
      ∀ raw' entries', raw'.entries? = some entries' →
        Rearranges entries entries' →
        ∃ f', define registry callbacks shape raw' = .ok f' ∧
          (ConditionsQuiet (Memory.strategy registry callbacks) entries merged
            records →
            f'.IsQuiet merged records) ∧
          (f'.IsQuiet merged records →
            f'.SplitsTo first second both records left) := by
  have hgrammar := isEntry_of_define hentries h
  have hcompiled := compiles_checkers hentries h
  refine ⟨_, splitsTo_kept hcompiled hfirst hsecond hboth hmerges hquiet, ?_⟩
  intro raw' entries' hentries' hrearranges
  obtain ⟨f', hf'⟩ :=
    exists_define_of_rearranges hentries hentries' h hrearranges
  have hcompiled' := compiles_checkers hentries' hf'
  refine ⟨f', hf', ?_, fun hquiet' => ?_⟩
  · exact isQuiet_of_rearranges hgrammar hcompiled hcompiled' hrearranges hquiet
  · rw [← kept_of_rearranges hgrammar hcompiled hcompiled' hrearranges hquiet
      hquiet']
    exact splitsTo_kept hcompiled' hfirst hsecond hboth
      (hmerges.of_rearranges hrearranges) hquiet'

/-! ## A sample -/

theorem isQuiet_of_all
    (h : (records.all fun record => (f.active inputs).all fun check =>
      (Outcome.failure? (check.1 record check.2).result).isNone) = true) :
    f.IsQuiet inputs records := by
  intro record hrecord check hmem
  have hnone :=
    List.all_eq_true.mp (List.all_eq_true.mp h record hrecord) check hmem
  cases hresult : (check.1 record check.2).result with
  | error e => simp [hresult] at hnone
  | ok b => exact ⟨b, rfl⟩

/-- Filters for people: by city, by a text in the name or the address, and by a
callback. -/
def splitFilters : List (Value × Value) :=
  [(.text "city", .comparison (.kind .eq) .none (.bool false)),
    (.text "search", .group (.kind .or) [
      .comparison (.kind .eq) (.text "name") (.bool false),
      .comparison (.kind .contains) (.text "email") (.bool true)]),
    (.text "known", .callback 0 "known" [])]

/-- The same filters in another order, with the conditions of the group
turned round. -/
def turnedFilters : List (Value × Value) :=
  [(.text "search", .group (.kind .or) [
      .comparison (.kind .contains) (.text "email") (.bool true),
      .comparison (.kind .eq) (.text "name") (.bool false)]),
    (.text "known", .callback 0 "known" []),
    (.text "city", .comparison (.kind .eq) .none (.bool false))]

/-- A person with a city, a name and an address. -/
def person (city name email : String) : Value :=
  .ofFields [("city", .text city), ("name", .text name), ("email", .text email)]

theorem rearranges_split :
    Rearranges splitFilters turnedFilters := by
  refine ⟨splitFilters.take 1 ++ turnedFilters.take 2, ?_,
    List.perm_append_comm⟩
  exact .cons ⟨rfl, Or.inl rfl⟩
    (.cons ⟨rfl, Or.inr ⟨.or, _, _, .of_values rfl rfl (.swap _ _ [])⟩⟩
      (.cons ⟨rfl, Or.inl rfl⟩ .nil))

/-- Inputs for the two parts. -/
def splitInputs : List (Value × Value) :=
  [(.text "city", .text "Rome"), (.text "search", .none)]

def splitInputs' : List (Value × Value) :=
  [(.text "known", .int 0), (.text "search", .text "ann")]

theorem merges_split :
    Merges splitFilters splitInputs splitInputs'
      (Value.merge splitInputs splitInputs') := by
  refine Value.merges_merge ?_ ?_ ?_
  · exact .cons (by simp) (.cons nofun .nil)
  · exact .cons (by simp) (.cons nofun .nil)
  · simp only [splitFilters, List.forall_mem_cons]
    exact ⟨Or.inr rfl, Or.inl rfl, Or.inl rfl, nofun⟩

/-- Some people; the last one lives in the right city and has the text in
the address. -/
def splitPeople : List Value :=
  [person "Oslo" "ann" "ann@example", person "Rome" "Bob" "bob@example",
    person "Rome" "Eve" "Ann@example"]

theorem conditionsQuiet_split :
    ConditionsQuiet
      (Memory.strategy Memory.defaultRegistry fun _ _ _ => .ok true)
      splitFilters (Value.merge splitInputs splitInputs') splitPeople := by
  intro record hrecord entry hentry condition input hcondition hgiven
  obtain ⟨k, conditions, hkind, hgroups, hfound, raw, hraw, c, hparse,
    hchecker⟩ := hcondition
  simp only [splitFilters, List.mem_cons, List.not_mem_nil, or_false] at hentry
  rcases hentry with rfl | rfl | rfl
  · cases hkind
    cases hgroups
  · cases hfound
    cases hgiven
    simp only [splitPeople, List.mem_cons, List.not_mem_nil,
      or_false] at hraw hrecord
    rcases hraw with rfl | rfl
    all_goals
      cases hparse
      cases hchecker
      rcases hrecord with rfl | rfl | rfl <;> exact ⟨_, rfl⟩
  · cases hkind

/-- Of these people one is kept, by the filters in both orders and by the input
in both forms. -/
theorem filter_split_people :
    ∃ f f',
      define Memory.defaultRegistry (fun _ _ _ => .ok true) .absent
        (.mapping .plain splitFilters) = .ok f ∧
      define Memory.defaultRegistry (fun _ _ _ => .ok true) .absent
        (.mapping .plain turnedFilters) = .ok f' ∧
      f.SplitsTo (.mapping .plain splitInputs) (.mapping .plain splitInputs')
        (.mapping .plain (Value.merge splitInputs splitInputs')) splitPeople
        [person "Rome" "Eve" "Ann@example"] ∧
      f'.SplitsTo (.mapping .plain splitInputs) (.mapping .plain splitInputs')
        (.mapping .plain (Value.merge splitInputs splitInputs')) splitPeople
        [person "Rome" "Eve" "Ann@example"] := by
  obtain ⟨f, hf, hquiet, hrun⟩ :
      ∃ f,
        define Memory.defaultRegistry (fun _ _ _ => .ok true) .absent
          (.mapping .plain splitFilters) = .ok f ∧
        f.IsQuiet (Value.merge splitInputs splitInputs') splitPeople ∧
        (Search.filter (fun record =>
          passes record (f.active (Value.merge splitInputs splitInputs')))
            splitPeople).result = .ok [person "Rome" "Eve" "Ann@example"] :=
    ⟨_, rfl, isQuiet_of_all rfl, rfl⟩
  have hsupplies : ∀ inputs, (Value.mapping .plain inputs).Supplies inputs :=
    fun inputs => .carried rfl
  obtain ⟨left, hleft, hothers⟩ :=
    filter_split rfl hf (hsupplies _) (hsupplies _) (hsupplies _)
      merges_split hquiet
  obtain ⟨f', hf', hquiet', hleft'⟩ :=
    hothers (.mapping .plain turnedFilters) _ rfl rearranges_split
  have hone : left = [person "Rome" "Eve" "Ann@example"] := by
    obtain ⟨p, q, both, -, -, hboth, -, -, hkept⟩ := hleft
    rw [predicate_of_supplies (hsupplies _)] at hboth
    cases hboth
    exact Except.ok.inj (hkept.symm.trans hrun)
  subst hone
  exact ⟨f, f', hf, hf', hleft, hleft' (hquiet' conditionsQuiet_split)⟩

end MemoryFilter
end RecordFilter
