import UriRouting.Proofs.Pattern.Expansion

/-!
# A run of delimiters in front of `;` and `?`

The class of the operator `+` holds `;` and `?`, so a run does not stop by itself where
an operator `;` or `?` begins.  Only the boundary ends it there, and the boundary is the
symbol of the operator right behind the run.

## 1.  Ends before a delimiter

Where the delimiter occurs, its first occurrence is tried first (`ends_delimiter_append`).
Where it does not occur, the boundary does nothing (`ends_delimiter_of_notMem`).

## 2.  What the operators write

`expandOperator_eq_nil_iff` says when they write nothing.  A written query is made of
characters of the class of `+` other than `;` (`units_expandOperator_query`).

## 3.  The walk

`OpenedByFirst`: what the operators write begins with the symbol of the first of them.
Then the run ends where it was written (`exists_walk_run`).  A run in which `;` does not
occur takes a query behind an absent `;` as well (`walk_run_whole`).
-/

namespace UriRouting

open CharClass (Units)
open Template (expandTokens expandOperator joinItems)

/-! ## 1.  Ends before a delimiter -/

namespace Boundary

variable {k : CharClass} {c : Char} {w : Text}

/-- **The first occurrence of a delimiter is the first end**, when it stands behind a text
of the class. -/
theorem ends_delimiter_append (hk : k ≠ .any) (hw : Units k.admits w) (hc : c ∉ w) {least : Nat}
    (hleast : least ≤ w.length) (rest : Text) :
    ∃ later, (delimiter c).ends k least (w ++ c :: rest) = w.length :: later := by
  have hrun : w.length ≤ k.run (w ++ c :: rest) := by
    rw [CharClass.run_eq_runOf hk, CharClass.runOf_append hw]
    exact Nat.le_add_right _ _
  have hmem : w.length ∈ literalCuts [c] least (k.run (w ++ c :: rest)) (w ++ c :: rest) := by
    refine mem_literalCuts.2 ⟨hleast, hrun, ?_, ?_⟩
    · rw [List.length_append]
      exact Nat.le_add_right _ _
    · rw [List.drop_left, startsWithLiteral]
      exact congrArg Option.isSome (stripLiteral?_append [c] rest)
  obtain ⟨later, hcuts⟩ := exists_eq_cons_of_least (pairwise_literalCuts _ _ _ _) hmem
    fun n hn => length_le_of_startsWithLiteral hc (mem_literalCuts.1 hn).2.2.2
  simp only [ends, hcuts]
  split
  · exact ⟨later ++ [_], rfl⟩
  · exact ⟨later, rfl⟩

/-- A delimiter that does not occur leaves the whole run as the only end. -/
theorem ends_delimiter_of_notMem {text : Text} (hc : c ∉ text) (k : CharClass) (least : Nat) :
    (delimiter c).ends k least text = free.ends k least text := by
  have hcuts : literalCuts [c] least (k.run text) text = [] := by
    rw [List.eq_nil_iff_forall_not_mem]
    intro n hn
    obtain ⟨rest, hrest⟩ := exists_cons_of_startsWithLiteral (mem_literalCuts.1 hn).2.2.2
    exact hc (List.mem_of_mem_drop (hrest ▸ List.mem_cons_self))
  simp [ends, hcuts]

/-- A text of the class is a whole run. -/
theorem ends_free_of_units (hk : k ≠ .any) (hw : Units k.admits w) {least : Nat}
    (hleast : least ≤ w.length) : free.ends k least w = [w.length] := by
  have hrun : k.run (w ++ []) = w.length := CharClass.run_append hk hw (CharClass.stops_nil k)
  rw [List.append_nil] at hrun
  rw [ends, hrun, if_pos hleast]

end Boundary

/-! ## 2.  What the operators write -/

/-- The forms of the operators whose symbol bounds a run, in the order in which they stand. -/
def boundingForms : List OperatorForm := [.pathParameters, .queryParameters]

theorem mem_boundingForms {form : OperatorForm} :
    form ∈ boundingForms ↔ form = .pathParameters ∨ form = .queryParameters := by
  simp [boundingForms]

theorem mem_pathForms_of_mem_boundingForms {form : OperatorForm} (h : form ∈ boundingForms) :
    form ∈ pathForms :=
  mem_pathForms.2 (Or.inr (mem_boundingForms.1 h))

/-- Before such an operator the boundary is its symbol. -/
theorem exists_before_eq_delimiter {op : Operator} (hform : op.form ∈ boundingForms)
    (tokens : List Token) :
    ∃ c, op.form.text = [c] ∧ Boundary.before (.operator op :: tokens) = .delimiter c := by
  rw [Boundary.before]
  rcases mem_boundingForms.1 hform with hform | hform
  · exact ⟨';', by rw [hform]; rfl, by rw [hform]⟩
  · exact ⟨'?', by rw [hform]; rfl, by rw [hform]⟩

section Written

variable {op : Operator} {params : Parameters}

theorem Parameters.defined_eq_nil_iff {vs : List Variable} :
    params.defined vs = [] ↔ ∀ v ∈ vs, params.defines v = false := by
  rw [defined, List.filterMap_eq_nil_iff]
  refine forall_congr' fun v => forall_congr' fun _ => ?_
  rw [Option.map_eq_none_iff, defines, Option.isSome_eq_false_iff, Option.isNone_iff_eq_none]

/-- Such an operator writes nothing only if none of its variables has a value. -/
theorem expandOperator_eq_nil_iff (hform : op.form ∈ boundingForms) :
    expandOperator op params = [] ↔ ∀ v ∈ op.vars, params.defines v = false := by
  rw [← Parameters.defined_eq_nil_iff]
  rcases mem_boundingForms.1 hform with hform | hform
  all_goals
    simp only [expandOperator, hform]
    cases params.defined op.vars with
    | nil => simp
    | cons entry entries => simp

theorem expandTokens_pathQuery (xs ys : List Variable) (params : Parameters) :
    expandTokens ([⟨.pathParameters, xs⟩, ⟨.queryParameters, ys⟩].map .operator) params =
      expandOperator ⟨.pathParameters, xs⟩ params ++
        expandOperator ⟨.queryParameters, ys⟩ params := by
  rw [expandTokens_operators_cons, expandTokens_operators_cons]
  exact congrArg _ (List.append_nil _)

/-- Whether a character may stand in a written query outside its escapes. -/
def isQueryChar (c : Char) : Bool := isUnreserved c || c == ',' || c == '?' || c == '&' || c == '='

theorem isQueryChar_of_isUnreserved {c : Char} (h : isUnreserved c = true) :
    isQueryChar c = true := by
  simp [isQueryChar, h]

theorem isQueryChar_of_isNameChar {c : Char} (h : isNameChar c = true) : isQueryChar c = true := by
  refine isQueryChar_of_isUnreserved ?_
  simp only [isNameChar, isUnreserved, Bool.or_eq_true] at h ⊢
  rcases h with ((h | h) | h) | h <;> simp [h]

theorem admits_of_isQueryChar {c : Char} (h : isQueryChar c = true) :
    CharClass.reserved.admits c = true := by
  simp only [isQueryChar, Bool.or_eq_true, beq_iff_eq] at h
  rcases h with (((h | rfl) | rfl) | rfl) | rfl
  · exact CharClass.admits_of_isUnreserved _ h
  all_goals rfl

/-- A written query is made of the characters of a query and of escapes. -/
theorem units_expandOperator_query (hform : op.form = .queryParameters)
    (hnames : ∀ v ∈ op.vars, isName v.name = true) :
    Units isQueryChar (expandOperator op params) := by
  have hpair : ∀ entry ∈ params.defined op.vars, Units isQueryChar (Template.pair entry) := by
    intro entry hentry
    have hisName := hnames entry.1 (Parameters.mem_defined.1 hentry).1
    have hname : Units isQueryChar entry.1.name := by
      refine CharClass.units_of_forall fun c hc => ?_
      have hchar := isNameChar_of_mem_name hisName hc
      refine ⟨?_, isQueryChar_of_isNameChar hchar⟩
      rintro rfl
      cases hchar
    have hvalue : Units isQueryChar (joinItems Percent.encode entry.2) :=
      units_joinItems_of rfl
        (fun item => (Percent.units_encode item).mono fun _ => isQueryChar_of_isUnreserved) _
    exact hname.append (Units.char (by decide) rfl hvalue)
  simp only [expandOperator, hform]
  cases hdefined : params.defined op.vars with
  | nil => exact Units.nil
  | cons entry entries =>
    rw [hdefined] at hpair
    refine Units.char (by decide) rfl (units_joined ?_ fun t ht => ?_)
    · exact Units.char (by decide) rfl Units.nil
    · obtain ⟨e, he, rfl⟩ := List.mem_map.1 ht
      exact hpair e he

/-- No path parameter seems to begin in a written query. -/
theorem semicolon_notMem_query {t : Text} (h : Units isQueryChar t) : ';' ∉ t := by
  intro hmem
  rcases h.mem hmem with hpercent | hdigit | hquery
  · cases hpercent
  · cases hdigit
  · cases hquery

end Written

/-! ## 3.  The walk -/

theorem matchRun_of_eq_cons {ends later : List Nat} {n : Nat} (hends : ends = n :: later)
    {capture : Text → List Capture} {next : Text → Option Match} {text : Text} {m : Match}
    (h : next (text.drop n) = some m) :
    matchRun ends capture next text = some (m.withCaptures (capture (text.take n))) := by
  rw [matchRun, hends, List.findSome?_cons, h]
  rfl

/-- A run whose first end leaves the remaining tokens a match is taken there. -/
theorem walk_run {p : Variable} {tokens : List Token} {w rest : Text} {later : List Nat}
    (hends : (Boundary.before tokens).ends .reserved 1 (w ++ rest) = w.length :: later) {m : Match}
    (h : walk tokens rest = some m) :
    walk (.operator ⟨.reserved, [p]⟩ :: tokens) (w ++ rest) =
      some (m.withCaptures [⟨p, .one w⟩]) := by
  have hnext : walk tokens ((w ++ rest).drop w.length) = some m := by rw [List.drop_left, h]
  rw [walk, if_pos (beq_self_eq_true OperatorForm.reserved), matchRun_of_eq_cons hends hnext,
    List.take_left]
  rfl

/-- What operators write begins with the symbol of the first of them, unless it is
nothing. -/
def OpenedByFirst (ops : List Operator) (params : Parameters) : Prop :=
  ∀ op ∈ ops.head?, expandOperator op params = [] →
    expandTokens (ops.map .operator) params = []

theorem openedByFirst_of_length_le_one {ops : List Operator} (h : ops.length ≤ 1)
    (params : Parameters) : OpenedByFirst ops params := by
  intro op hop hnil
  rcases ops with _ | ⟨first, _ | ⟨second, rest⟩⟩
  · cases hop
  · cases hop
    rw [expandTokens_operators_cons, hnil]
    rfl
  · exact absurd h (by simp)

/-- Path parameters and a query begin with `;` or are empty exactly if a path parameter has
a value or nothing in the query has. -/
theorem openedByFirst_iff {xs ys : List Variable} {params : Parameters} :
    OpenedByFirst [⟨.pathParameters, xs⟩, ⟨.queryParameters, ys⟩] params ↔
      (∃ x ∈ xs, params.defines x = true) ∨ ∀ y ∈ ys, params.defines y = false := by
  have hpath : expandOperator ⟨.pathParameters, xs⟩ params = [] ↔
      ∀ x ∈ xs, params.defines x = false :=
    expandOperator_eq_nil_iff (mem_boundingForms.2 (Or.inl rfl))
  have hquery : expandOperator ⟨.queryParameters, ys⟩ params = [] ↔
      ∀ y ∈ ys, params.defines y = false :=
    expandOperator_eq_nil_iff (mem_boundingForms.2 (Or.inr rfl))
  constructor
  · intro hopened
    by_cases hdefined : ∃ x ∈ xs, params.defines x = true
    · exact Or.inl hdefined
    · have habsent : ∀ x ∈ xs, params.defines x = false :=
        fun x hx => Bool.eq_false_iff.2 fun h => hdefined ⟨x, hx, h⟩
      have hnil := hopened _ rfl (hpath.2 habsent)
      rw [expandTokens_pathQuery, List.append_eq_nil_iff] at hnil
      exact Or.inr (hquery.1 hnil.2)
  · rintro (⟨x, hx, hdefined⟩ | habsent) op ⟨⟩ hnil
    · rw [hpath.1 hnil x hx] at hdefined
      cases hdefined
    · rw [expandTokens_pathQuery, hnil, hquery.2 habsent]
      rfl

section Walk

variable {ops : List Operator} {params : Parameters} {w : Text}

/-- Then the first end of a run is the end of what was written. -/
theorem ends_run (hforms : ∀ op ∈ ops, op.form ∈ boundingForms) (hopened : OpenedByFirst ops params)
    (hw : Units CharClass.reserved.admits w) (hne : w ≠ [])
    (havoids : ∀ op ∈ ops.head?, w.Avoids op.form.text) :
    ∃ later, (Boundary.before (ops.map .operator)).ends .reserved 1
      (w ++ expandTokens (ops.map .operator) params) = w.length :: later := by
  have hleast : 1 ≤ w.length := List.length_pos_iff.2 hne
  have hfree : Boundary.free.ends .reserved 1 w = [w.length] :=
    Boundary.ends_free_of_units (by decide) hw hleast
  cases ops with
  | nil =>
    refine ⟨[], ?_⟩
    rw [expandTokens, List.map_nil, List.flatMap_nil, List.append_nil]
    exact hfree
  | cons op ops =>
    have hform := hforms op List.mem_cons_self
    obtain ⟨c, hc, hbefore⟩ := exists_before_eq_delimiter hform (ops.map .operator)
    have hnotMem : c ∉ w := by
      have hop := havoids op rfl
      rwa [hc, Text.avoids_singleton_iff] at hop
    rw [List.map_cons, hbefore, ← List.map_cons]
    cases hwritten : expandOperator op params with
    | nil =>
      rw [hopened op rfl hwritten, List.append_nil,
        Boundary.ends_delimiter_of_notMem hnotMem, hfree]
      exact ⟨[], rfl⟩
    | cons d written =>
      have hd : d ∈ (expandOperator op params).head? := by
        rw [hwritten]
        rfl
      have hsymbol := head?_expandOperator (mem_pathForms_of_mem_boundingForms hform) hd
      rw [hc] at hsymbol
      cases hsymbol
      rw [expandTokens_operators_cons, hwritten, List.cons_append]
      exact Boundary.ends_delimiter_append (by decide) hw hnotMem hleast _

/-- **A run in front of operators is read back**, together with their variables, when the
operators are opened by the first of them. -/
theorem exists_walk_run {p : Variable} (hforms : (ops.map Operator.form).Sublist boundingForms)
    (hfits : ∀ op ∈ ops, op.Fits params) (hopened : OpenedByFirst ops params)
    (hw : Units CharClass.reserved.admits w) (hne : w ≠ [])
    (havoids : ∀ op ∈ ops.head?, w.Avoids op.form.text) :
    ∃ m, walk (.operator ⟨.reserved, [p]⟩ :: ops.map .operator)
        (w ++ expandTokens (ops.map .operator) params) = some m ∧
      m.captures = ⟨p, .one w⟩ ::
        (params.defined ((ops.map Token.operator).flatMap Token.vars)).map Capture.written := by
  have hmem : ∀ op ∈ ops, op.form ∈ boundingForms :=
    fun op hop => hforms.subset (List.mem_map_of_mem hop)
  obtain ⟨later, hends⟩ := ends_run hmem hopened hw hne havoids
  obtain ⟨m, hwalk, hcaptures⟩ :=
    reads_operators (hforms.trans (List.sublist_cons_self _ _)) hfits
  refine ⟨_, walk_run hends hwalk, ?_⟩
  rw [← hcaptures]
  rfl

/-- **A run takes everything where the delimiter behind it does not occur**, even if the
operator after the next one could go on. -/
theorem walk_run_whole (p : Variable) (xs ys : List Variable)
    (hw : Units CharClass.reserved.admits w) (hne : w ≠ []) (hsemicolon : ';' ∉ w) :
    ∃ m, walk [.operator ⟨.reserved, [p]⟩, .operator ⟨.pathParameters, xs⟩,
        .operator ⟨.queryParameters, ys⟩] w = some m ∧ m.captures = [⟨p, .one w⟩] := by
  have hends : (Boundary.before [.operator ⟨.pathParameters, xs⟩,
      .operator ⟨.queryParameters, ys⟩]).ends .reserved 1 (w ++ []) = [w.length] := by
    rw [List.append_nil]
    show (Boundary.delimiter ';').ends .reserved 1 w = _
    rw [Boundary.ends_delimiter_of_notMem hsemicolon]
    exact Boundary.ends_free_of_units (by decide) hw (List.length_pos_iff.2 hne)
  have hrest : walk [.operator ⟨.pathParameters, xs⟩, .operator ⟨.queryParameters, ys⟩] [] =
      some .empty := rfl
  have hwalk := walk_run (p := p) hends hrest
  rw [List.append_nil] at hwalk
  exact ⟨_, hwalk, rfl⟩

end Walk
end UriRouting
