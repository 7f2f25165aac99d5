import RecordFilter.InputModel.Names
import Mathlib.Data.List.Nodup
import Mathlib.Data.List.Perm.Subperm

/-!
# Attributes of input models

The filters of a definition can have any names, but an input model needs
attributes.  This module says that no two filters share an attribute, and that
no filter has an attribute that another one has as its name.

**Members.**  Nothing is assumed of the members of a model, but that none of
them is named like a generated attribute.

**Generated names.**  A generated name starts like an attribute and goes on with
digits and underscores, so it can be an attribute, whatever its number is.

**Fresh names.**  Adding underscores gives a name that is not taken, since there
are more candidates than names in use.  A fresh name joins the names in use, so
the next one differs.

**Loops.**  `Pads` adds underscores one by one, `Assigns` goes through the names
one by one.  Both are relations, which hold only of runs that end.

**Results.**
* `isAttributeName_generated`: generated names can be attributes.
* `exists_freshName`: a fresh name is generated and not taken, but with fewer
  underscores it is.
* `assigns_iff`: going through the names ends, with the attributes of
  `attributeNames`.
* `eq_of_attribute_mem`: an attribute that is a filter name belongs to the
  filter of that name.
* `attributes_distinct`: every filter has one attribute, a usable one that is
  its name or else new, and different filters have different ones.
-/

namespace RecordFilter
namespace InputModel

/-! ## Generated names -/

/-- What every generated name starts with. -/
def generatedStart : List Char := ['f', 'i', 'l', 't', 'e', 'r', '_']

theorem toList_generated
    (index n : Nat) :
    (padded (generatedName index) n).toList =
      generatedStart ++ (Nat.toDigits 10 index ++ List.replicate n '_') := by
  simp [padded, generatedName, generatedStart, Nat.repr, String.toList_append]

theorem continuesIdentifier_of_isDigit
    {c : Char}
    (h : c.isDigit = true) :
    Text.continuesIdentifier c = true := by
  have hrange : 48 ≤ c.toNat ∧ c.toNat ≤ 57 := by
    simp only [Char.isDigit, Bool.and_eq_true, decide_eq_true_eq] at h
    exact h
  have hfound : Text.inRanges Text.continuationRanges c.toNat = true := by
    rw [Text.inRanges_iff]
    exact ⟨(0x30, 0x39), by decide, hrange⟩
  rw [Text.continuesIdentifier, hfound, Bool.or_true]

theorem isIdentifier_generated
    (index n : Nat) :
    Text.isIdentifier (padded (generatedName index) n) = true := by
  have hstart : generatedStart.all Text.continuesIdentifier = true := by
    decide
  have hdigits :
      (Nat.toDigits 10 index).all Text.continuesIdentifier = true := by
    rw [List.all_eq_true]
    intro c hc
    exact continuesIdentifier_of_isDigit
      (Nat.isDigit_of_mem_toDigits (by decide) (by decide) hc)
  have hpadding :
      (List.replicate n '_').all Text.continuesIdentifier = true := by
    rw [List.all_eq_true]
    intro c hc
    rw [List.eq_of_mem_replicate hc]
    rfl
  have hall :
      (generatedStart ++ (Nat.toDigits 10 index ++ List.replicate n '_')).all
        Text.continuesIdentifier = true := by
    rw [List.all_append, List.all_append, hstart, hdigits, hpadding]
    rfl
  unfold Text.isIdentifier
  rw [toList_generated]
  have hfirst : Text.startsIdentifier 'f' = true := by
    decide
  change (Text.startsIdentifier 'f' && _) = true
  rw [hfirst, Bool.true_and]
  exact (Bool.and_eq_true_iff.mp hall).2

/-- No keyword starts like a generated name. -/
theorem not_keyword_of_generatedStart
    {name : String}
    (h : generatedStart <+: name.toList) :
    name ∉ Text.keywords := by
  have hkeywords :
      ∀ word ∈ Text.keywords, ¬ generatedStart <+: word.toList := by
    decide
  exact fun hmem => hkeywords name hmem h

/-- No member of a model is named like a generated attribute. -/
def LeavesGenerated (isMember : String → Bool) : Prop :=
  ∀ name : String, generatedStart <+: name.toList → isMember name = false

theorem leavesGenerated_reserved :
    LeavesGenerated reserved.contains := by
  have hreserved : ∀ word ∈ reserved, ¬ generatedStart <+: word.toList := by
    decide
  intro name h
  simpa using fun hmem => hreserved name hmem h

variable {isMember : String → Bool}

/-- Generated names can be attributes, with any number of underscores
behind them. -/
theorem isAttributeName_generated
    (hmembers : LeavesGenerated isMember)
    (index n : Nat) :
    isAttributeName isMember (padded (generatedName index) n) = true := by
  have hstart : generatedStart <+: (padded (generatedName index) n).toList := by
    rw [toList_generated]
    exact List.prefix_append _ _
  have hkeyword := not_keyword_of_generatedStart hstart
  have hmember := hmembers _ hstart
  have hunderscore :
      ['_'].isPrefixOf (padded (generatedName index) n).toList = false := by
    rw [toList_generated]
    rfl
  have hmodel :
      "model_".toList.isPrefixOf (padded (generatedName index) n).toList =
        false := by
    rw [toList_generated]
    rfl
  unfold isAttributeName
  rw [isIdentifier_generated, hunderscore, hmodel, hmember]
  simp [hkeyword]

/-! ## Fresh names -/

theorem padded_zero
    (base : String) :
    padded base 0 = base := by
  simp [padded]

theorem padded_succ
    (base : String)
    (n : Nat) :
    padded base (n + 1) = padded base n ++ "_" := by
  apply String.toList_inj.mp
  simp [padded, List.replicate_succ']

theorem padded_injective
    (base : String) :
    Function.Injective (padded base) := by
  intro m n h
  have hlength := congrArg (fun s => s.toList.length) h
  simpa [padded] using hlength

/-- A fresh name is the base with the fewest underscores that keep it apart from
the taken names.  It never needs more of them than there are taken names, since
there is one more candidate than that. -/
theorem exists_freshName
    (taken : List String)
    (base : String) :
    ∃ n ≤ taken.length, freshName taken base = padded base n ∧
      padded base n ∉ taken ∧
      ∀ m < n, padded base m ∈ taken := by
  have hfound :
      ((List.range (taken.length + 1)).find?
        fun n => !taken.contains (padded base n)).isSome = true := by
    rw [List.find?_isSome]
    by_contra hnone
    have hall : (List.range (taken.length + 1)).map (padded base) ⊆ taken := by
      intro name hmem
      obtain ⟨n, hn, rfl⟩ := List.mem_map.mp hmem
      by_contra hfree
      exact hnone ⟨n, hn, by simpa using hfree⟩
    have hdistinct :
        ((List.range (taken.length + 1)).map (padded base)).Nodup :=
      (List.nodup_map_iff (padded_injective base)).mpr List.nodup_range
    have hlength := (List.subperm_of_subset hdistinct hall).length_le
    rw [List.length_map, List.length_range] at hlength
    omega
  obtain ⟨n, hn⟩ := Option.isSome_iff_exists.mp hfound
  obtain ⟨hfree, hrange, hleast⟩ := List.find?_range_eq_some.mp hn
  refine ⟨n, Nat.le_of_lt_succ (List.mem_range.mp hrange), ?_,
    by simpa using hfree, ?_⟩
  · rw [freshName, List.find?_map]
    change (Option.map (padded base)
      (List.find? (fun n => !taken.contains (padded base n)) _)).getD
      base = _
    rw [hn]
    rfl
  · intro m hm
    simpa using hleast m hm

/-! ## The loops -/

/-- Adding underscores to a candidate, one by one, until it is not taken. -/
inductive Pads (taken : List String) : String → String → Prop
  | free
      {candidate : String}
      (hfree : candidate ∉ taken) :
      Pads taken candidate candidate
  | onward
      {candidate result : String}
      (htaken : candidate ∈ taken)
      (rest : Pads taken (candidate ++ "_") result) :
      Pads taken candidate result

/-- Giving attributes to names from a position on, one by one; a generated
attribute is taken from then on. -/
inductive Assigns (isMember : String → Bool) :
    List String → Nat → List String → List (String × String) → Prop
  | nil
      {taken : List String}
      {index : Nat} :
      Assigns isMember taken index [] []
  | own
      {taken names : List String}
      {index : Nat}
      {name : String}
      {pairs : List (String × String)}
      (husable : isAttributeName isMember name = true)
      (rest : Assigns isMember taken (index + 1) names pairs) :
      Assigns isMember taken index (name :: names) ((name, name) :: pairs)
  | generated
      {taken names : List String}
      {index : Nat}
      {name fresh : String}
      {pairs : List (String × String)}
      (hunusable : isAttributeName isMember name = false)
      (pads : Pads taken (generatedName index) fresh)
      (rest : Assigns isMember (fresh :: taken) (index + 1) names pairs) :
      Assigns isMember taken index (name :: names) ((name, fresh) :: pairs)

theorem Pads.unique
    {taken : List String}
    {candidate result result' : String}
    (h : Pads taken candidate result)
    (h' : Pads taken candidate result') :
    result = result' := by
  induction h with
  | free hfree =>
      cases h' with
      | free => rfl
      | onward htaken => exact absurd htaken hfree
  | onward htaken _ ih =>
      cases h' with
      | free hfree => exact absurd htaken hfree
      | onward _ rest => exact ih rest

/-- Adding underscores ends, with the fresh name; the induction is on the
underscores that are still to be added. -/
theorem pads_iff
    {taken : List String}
    {base result : String} :
    Pads taken base result ↔ result = freshName taken base := by
  obtain ⟨n, -, hfresh, hfree, hleast⟩ := exists_freshName taken base
  have hruns : ∀ m ≤ n, Pads taken (padded base (n - m)) (padded base n) := by
    intro m
    induction m with
    | zero => exact fun _ => .free hfree
    | succ m ih =>
        intro hm
        refine .onward (hleast _ (by omega)) ?_
        rw [← padded_succ, show n - (m + 1) + 1 = n - m by omega]
        exact ih (by omega)
  have hrun : Pads taken base (freshName taken base) := by
    have hall := hruns n (Nat.le_refl n)
    rw [Nat.sub_self, padded_zero] at hall
    rw [hfresh]
    exact hall
  constructor
  · exact fun h => h.unique hrun
  · rintro rfl
    exact hrun

/-- Going through the names ends, with the attributes that they get. -/
theorem assigns_iff
    {taken names : List String}
    {index : Nat}
    {pairs : List (String × String)} :
    Assigns isMember taken index names pairs ↔
      pairs = attributeNamesFrom isMember taken index names := by
  induction names generalizing taken index pairs with
  | nil =>
      constructor
      · intro h
        cases h
        rfl
      · rintro rfl
        exact .nil
  | cons name rest ih =>
      unfold attributeNamesFrom
      constructor
      · intro h
        cases h with
        | own husable onward => rw [if_pos husable, ih.mp onward]
        | generated hunusable pads onward =>
            rw [if_neg (Bool.eq_false_iff.mp hunusable), ← pads_iff.mp pads,
              ih.mp onward]
      · rintro rfl
        split
        · exact .own ‹_› (ih.mpr rfl)
        · exact .generated (Bool.eq_false_iff.mpr ‹_›) (pads_iff.mpr rfl)
            (ih.mpr rfl)

/-! ## Attributes of all filters -/

theorem map_fst_attributeNamesFrom
    (isMember : String → Bool)
    (taken : List String)
    (index : Nat)
    (names : List String) :
    (attributeNamesFrom isMember taken index names).map Prod.fst = names := by
  induction names generalizing taken index with
  | nil => rfl
  | cons name rest ih =>
      unfold attributeNamesFrom
      split
      · rw [List.map_cons, ih]
      · rw [List.map_cons, ih]

/-- A filter keeps its name as its attribute if it can; otherwise it gets a
generated one that is not taken. -/
theorem attribute_of_mem
    {taken names : List String}
    {index : Nat}
    {pair : String × String}
    (hmembers : LeavesGenerated isMember)
    (h : pair ∈ attributeNamesFrom isMember taken index names) :
    isAttributeName isMember pair.1 = true ∧ pair.2 = pair.1 ∨
      isAttributeName isMember pair.1 = false ∧
      isAttributeName isMember pair.2 = true ∧
        pair.2 ∉ taken := by
  induction names generalizing taken index with
  | nil => cases h
  | cons name rest ih =>
      unfold attributeNamesFrom at h
      split at h
      · rename_i husable
        rcases List.mem_cons.mp h with rfl | hrest
        · exact .inl ⟨husable, rfl⟩
        · exact ih hrest
      · rename_i hunusable
        rcases List.mem_cons.mp h with rfl | hrest
        · obtain ⟨n, -, hfresh, hfree, -⟩ :=
            exists_freshName taken (generatedName index)
          rw [← hfresh] at hfree
          refine .inr ⟨Bool.eq_false_iff.mpr hunusable, ?_, hfree⟩
          rw [hfresh]
          exact isAttributeName_generated hmembers index n
        · rcases ih hrest with hown | ⟨hname, hattribute, hfree⟩
          · exact .inl hown
          · exact .inr ⟨hname, hattribute,
              fun hmem => hfree (List.mem_cons_of_mem _ hmem)⟩

theorem name_mem_of_mem
    {taken names : List String}
    {index : Nat}
    {pair : String × String}
    (h : pair ∈ attributeNamesFrom isMember taken index names) :
    pair.1 ∈ names := by
  rw [← map_fst_attributeNamesFrom isMember taken index names]
  exact List.mem_map_of_mem h

/-- A name in use that no later filter has is not the attribute of a later
filter either. -/
theorem not_mem_attributes
    {taken names : List String}
    {index : Nat}
    {used : String}
    (hmembers : LeavesGenerated isMember)
    (hused : used ∈ taken)
    (hother : isAttributeName isMember used = true → used ∉ names) :
    used ∉ (attributeNamesFrom isMember taken index names).map Prod.snd := by
  intro hmem
  obtain ⟨pair, hpair, rfl⟩ := List.mem_map.mp hmem
  rcases attribute_of_mem hmembers hpair with ⟨husable, hown⟩ | ⟨-, -, hfree⟩
  · rw [hown] at hother
    exact hother husable (name_mem_of_mem hpair)
  · exact hfree hused

/-- All attributes differ if the names do, and those that can be
attributes are taken. -/
theorem nodup_attributeNamesFrom
    {taken names : List String}
    (hmembers : LeavesGenerated isMember)
    (index : Nat)
    (hnames : names.Nodup)
    (htaken :
      ∀ name ∈ names, isAttributeName isMember name = true → name ∈ taken) :
    ((attributeNamesFrom isMember taken index names).map Prod.snd).Nodup := by
  induction names generalizing taken index with
  | nil => exact .nil
  | cons name rest ih =>
      obtain ⟨hnew, hrest⟩ := List.nodup_cons.mp hnames
      have hothers :
          ∀ other ∈ rest, isAttributeName isMember other = true →
            other ∈ taken :=
        fun other hmem => htaken other (List.mem_cons_of_mem _ hmem)
      unfold attributeNamesFrom
      split
      · rename_i husable
        rw [List.map_cons, List.nodup_cons]
        have hused := htaken name List.mem_cons_self husable
        exact ⟨not_mem_attributes hmembers hused fun _ => hnew,
          ih _ hrest hothers⟩
      · obtain ⟨n, -, hfresh, hfree, -⟩ :=
          exists_freshName taken (generatedName index)
        rw [← hfresh] at hfree
        rw [List.map_cons, List.nodup_cons]
        refine ⟨not_mem_attributes hmembers List.mem_cons_self ?_,
          ih _ hrest ?_⟩
        · exact fun husable hmem => hfree (hothers _ hmem husable)
        · exact fun other hmem husable =>
            List.mem_cons_of_mem _ (hothers other hmem husable)

variable {names : List String} {pair : String × String}

theorem map_fst_attributeNames
    (isMember : String → Bool)
    (names : List String) :
    (attributeNames isMember names).map Prod.fst = names :=
  map_fst_attributeNamesFrom isMember _ 0 names

/-- Filters of different names have different attributes. -/
theorem nodup_attributes
    (hmembers : LeavesGenerated isMember)
    (h : names.Nodup) :
    ((attributeNames isMember names).map Prod.snd).Nodup := by
  refine nodup_attributeNamesFrom hmembers 0 h fun name hmem husable => ?_
  exact List.mem_filter.mpr ⟨hmem, husable⟩

/-- A generated attribute is not the name of any filter. -/
theorem not_mem_names_of_generated
    (hmembers : LeavesGenerated isMember)
    (hpair : pair ∈ attributeNames isMember names)
    (hunusable : isAttributeName isMember pair.1 = false) :
    pair.2 ∉ names := by
  rcases attribute_of_mem hmembers hpair with ⟨husable, -⟩ | ⟨-, husable, hfree⟩
  · rw [hunusable] at husable
    cases husable
  · exact fun hmem => hfree (List.mem_filter.mpr ⟨hmem, husable⟩)

/-- An attribute that is the name of a filter belongs to that filter. -/
theorem eq_of_attribute_mem
    (hmembers : LeavesGenerated isMember)
    (hpair : pair ∈ attributeNames isMember names)
    (hmem : pair.2 ∈ names) :
    pair.2 = pair.1 := by
  rcases attribute_of_mem hmembers hpair with ⟨-, hown⟩ | ⟨hunusable, -, -⟩
  · exact hown
  · exact absurd hmem (not_mem_names_of_generated hmembers hpair hunusable)

/-- **Every filter has an attribute of its own.**  Going through different names
ends, and gives each of them one attribute.  All attributes are usable and
different.  A name that is usable is its own attribute; the attribute of any
other name is the name of no filter. -/
theorem attributes_distinct
    (hmembers : LeavesGenerated isMember)
    (hnames : names.Nodup) :
    ∃ pairs,
      (∀ pairs', Assigns isMember (names.filter (isAttributeName isMember)) 0
        names pairs' ↔ pairs' = pairs) ∧
      attributeNames isMember names = pairs ∧
      pairs.map Prod.fst = names ∧
      (pairs.map Prod.snd).Nodup ∧
      ∀ pair ∈ pairs,
        isAttributeName isMember pair.2 = true ∧
        (isAttributeName isMember pair.1 = true → pair.2 = pair.1) ∧
        (isAttributeName isMember pair.1 = false → pair.2 ∉ names) := by
  refine ⟨attributeNames isMember names, fun pairs' => assigns_iff, rfl,
    map_fst_attributeNames isMember names, nodup_attributes hmembers hnames, ?_⟩
  intro pair hpair
  have hgenerated := not_mem_names_of_generated hmembers hpair
  rcases attribute_of_mem hmembers hpair with
      ⟨husable, hown⟩ | ⟨hunusable, hattribute, -⟩
  · exact ⟨by rw [hown, husable], fun _ => hown, hgenerated⟩
  · refine ⟨hattribute, fun husable => ?_, hgenerated⟩
    rw [hunusable] at husable
    cases husable

/-- Names that look like generated attributes, before and behind names
that need one. -/
def lookalikes : List String :=
  ["a-b", "filter_2", "copy", "filter_0_", "filter_0"]

/-- The first name gets two underscores and the third one gets one; the
others stay. -/
theorem attributes_lookalikes :
    LeavesGenerated reserved.contains ∧
      lookalikes.Nodup ∧
      Assigns reserved.contains
        (lookalikes.filter (isAttributeName reserved.contains)) 0 lookalikes
        [("a-b", "filter_0__"), ("filter_2", "filter_2"), ("copy", "filter_2_"),
          ("filter_0_", "filter_0_"), ("filter_0", "filter_0")] ∧
      isAttributeName reserved.contains "filter_0__" = true ∧
      "filter_0__" ∉ lookalikes := by
  have hdifferent : lookalikes.Nodup := by
    decide
  have hpairs :
      attributeNames reserved.contains lookalikes =
        [("a-b", "filter_0__"), ("filter_2", "filter_2"), ("copy", "filter_2_"),
          ("filter_0_", "filter_0_"), ("filter_0", "filter_0")] := by
    decide +kernel
  have hunusable : isAttributeName reserved.contains "a-b" = false := by
    decide +kernel
  obtain ⟨pairs, hruns, hsame, -, -, hattributes⟩ :=
    attributes_distinct leavesGenerated_reserved hdifferent
  rw [hpairs] at hsame
  subst hsame
  obtain ⟨husable, -, hnew⟩ :=
    hattributes ("a-b", "filter_0__") List.mem_cons_self
  exact ⟨leavesGenerated_reserved, hdifferent, (hruns _).mpr rfl, husable,
    hnew hunusable⟩

end InputModel
end RecordFilter
