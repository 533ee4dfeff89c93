import UriRouting.Pattern.Basic
import UriRouting.Proofs.Pattern.Operator
import UriRouting.Template.Expansion

/-!
# Matching an expanded template

A pattern matches what its own template expands to when nothing in the expansion
leaves open where a value ends.

## 1.  Variables that have a value

`Parameters.defined` pairs the variables that have a value with their values, and
`Operator.found_of_mem` finds each of them by its name.

## 2.  Token by token

`Reads params tokens`: the walk over the tokens takes from their expansion what was
written for each variable, and leaves nothing.  Each kind of token has its own step,
`Reads.literal`, `Reads.var` and `Reads.operator`.  `walk_literals_append` takes the
literals that a pattern begins with.

## 3.  Operators of a path

The operators `/`, `;` and `?`, in this order, end one another: each begins with a
character that stands in no value, and none takes the beginning of the next for its
own.  `reads_operators` is the induction over them.

## 4.  Bodies

In a body a variable comes last or in front of a literal that stops it.  `reads_body`
puts a body in front of the operators.
-/

namespace UriRouting

open Template (expandTokens expandOperator joinItems)

/-! ## 1.  Variables that have a value -/

namespace Parameters

variable {params : Parameters}

theorem mem_defined {vs : List Variable} {entry : Variable × OneOrMany Text} :
    entry ∈ params.defined vs ↔ entry.1 ∈ vs ∧ params.lookup entry.1 = some entry.2 := by
  obtain ⟨v, value⟩ := entry
  rw [defined, List.mem_filterMap]
  constructor
  · rintro ⟨w, hw, h⟩
    obtain ⟨found, hfound, heq⟩ := Option.map_eq_some_iff.1 h
    cases heq
    exact ⟨hw, hfound⟩
  · rintro ⟨hv, hlookup⟩
    exact ⟨v, hv, by rw [hlookup]; rfl⟩

theorem defined_append (vs ws : List Variable) :
    params.defined (vs ++ ws) = params.defined vs ++ params.defined ws := List.filterMap_append

theorem defined_singleton {v : Variable} {value : OneOrMany Text}
    (h : params.lookup v = some value) : params.defined [v] = [(v, value)] := by
  rw [defined, List.filterMap_cons, h]
  rfl

/-- Variables that all have a value are all defined. -/
theorem map_fst_defined {vs : List Variable} (h : ∀ v ∈ vs, ∃ value, params.lookup v = some value) :
    (params.defined vs).map Prod.fst = vs := by
  induction vs with
  | nil => rfl
  | cons v vs ih =>
    obtain ⟨⟨value, hvalue⟩, hvs⟩ := List.forall_mem_cons.1 h
    rw [← List.singleton_append, defined_append, defined_singleton hvalue, List.map_append, ih hvs]
    rfl

/-- A value that a variable has holds at least one item: an empty list counts as no
value. -/
theorem items_ne_nil_of_lookup {v : Variable} {value : OneOrMany Text}
    (h : params.lookup v = some value) : value.items ≠ [] := by
  have hdefault : v.default.map OneOrMany.one = some value → value.items ≠ [] := by
    intro hvalue
    obtain ⟨default, -, rfl⟩ := Option.map_eq_some_iff.1 hvalue
    exact List.cons_ne_nil _ _
  rw [lookup] at h
  split at h
  · split at h
    · rename_i hdefined
      cases h
      cases value with
      | one t => exact List.cons_ne_nil _ _
      | many ts =>
        rintro (rfl : ts = [])
        cases hdefined
    · exact hdefault h
  · exact hdefault h

end Parameters

theorem joinItems_one (s : Text) : joinItems Percent.encode (.one s) = Percent.encode s :=
  Text.joined_singleton _ _

theorem expandToken_var {params : Parameters} {v : Variable} {s : Text}
    (h : params.lookup v = some (.one s)) :
    Template.expandToken params (.var v) = Percent.encode s := by
  rw [Template.expandToken, h]
  exact joinItems_one s

/-- Among variables with distinct names, each is found by its name. -/
theorem Operator.found_of_mem {op : Operator} (hnames : (op.vars.map Variable.name).Nodup)
    {v : Variable} (hv : v ∈ op.vars) : op.variable? v.name = some v := by
  obtain ⟨before, after, hvars⟩ := List.append_of_mem hv
  rw [hvars, List.map_append, List.nodup_append] at hnames
  have hbefore : (before.find? fun w => w.name = v.name) = none := by
    rw [List.find?_eq_none]
    intro w hw hname
    exact hnames.2.2 w.name (List.mem_map_of_mem hw) v.name List.mem_cons_self
      (of_decide_eq_true hname)
  show (op.vars.find? fun w => w.name = v.name) = some v
  rw [hvars, List.find?_append, hbefore, Option.none_or]
  exact List.find?_cons_of_pos (by simp)

/-! ## 2.  Token by token -/

/-- A literal is taken where it was written. -/
theorem walk_literal_append (lit : Text) {tokens : List Token} {text : Text} {m : Match}
    (h : walk tokens text = some m) :
    walk (.literal lit :: tokens) (lit ++ text) = some (m.withLiteral lit) := by
  show (stripLiteral? lit (lit ++ text)).bind
    (fun text => (walk tokens text).map (Match.withLiteral lit)) = _
  rw [stripLiteral?_append, Option.bind_some, h, Option.map_some]

/-- Literals are taken where they were written. -/
theorem walk_literals_append (lits : List Text) (tokens : List Token) (text : Text) :
    walk (lits.map .literal ++ tokens) (lits.flatten ++ text) =
      (walk tokens text).map fun m => lits.foldr Match.withLiteral m := by
  induction lits with
  | nil =>
    show walk tokens text = (walk tokens text).map fun m => m
    rw [Option.map_id']
  | cons lit lits ih =>
    rw [List.flatten_cons, List.append_assoc, List.map_cons, List.cons_append, walk,
      stripLiteral?_append, Option.bind_eq_bind, Option.bind_some, ih, Option.map_map]
    rfl

/-- A pattern that begins with literals matches behind them as its other tokens do. -/
theorem Pattern.match?_literals_append {p : Pattern} {lits : List Text} {tokens : List Token}
    (htokens : p.tokens = lits.map .literal ++ tokens)
    (hneighbours : hasGreedyNeighbours tokens = false) (text : Text) :
    p.match? (lits.flatten ++ text) =
      (walk tokens text).map fun m => lits.foldr Match.withLiteral m := by
  have hambiguous : p.isAmbiguous = false := by
    rw [isAmbiguous, htokens]
    exact hasGreedyNeighbours_literals lits hneighbours
  rw [match?_eq_walk hambiguous, htokens, walk_literals_append]

/-- Literals capture nothing, and all their characters count. -/
theorem foldr_withLiteral (lits : List Text) (m : Match) :
    lits.foldr Match.withLiteral m = ⟨m.captures, lits.flatten.length + m.literalChars⟩ := by
  induction lits with
  | nil => rw [List.flatten_nil, List.length_nil, Nat.zero_add, List.foldr_nil]
  | cons lit lits ih =>
    rw [List.foldr_cons, ih, Match.withLiteral, List.flatten_cons, List.length_append,
      Nat.add_assoc]

theorem captures_foldr_withLiteral (lits : List Text) (m : Match) :
    (lits.foldr Match.withLiteral m).captures = m.captures := by
  rw [foldr_withLiteral]

/-- The walk over tokens takes from their expansion what was written for every variable
that has a value. -/
def Reads (params : Parameters) (tokens : List Token) : Prop :=
  ∃ m, walk tokens (expandTokens tokens params) = some m ∧
    m.captures = (params.defined (tokens.flatMap Token.vars)).map Capture.written

namespace Reads

variable {params : Parameters} {tokens : List Token}

theorem nil : Reads params [] := ⟨.empty, rfl, rfl⟩

theorem literal (h : Reads params tokens) (lit : Text) : Reads params (.literal lit :: tokens) := by
  obtain ⟨m, hwalk, hcaptures⟩ := h
  exact ⟨m.withLiteral lit, walk_literal_append lit hwalk, hcaptures⟩

/-- The value of a variable is taken back when the tokens after it stop its run. -/
theorem var {v : Variable} {s : Text} (hlookup : params.lookup v = some (.one s)) (hs : s ≠ [])
    (hcloses : (Boundary.before tokens).Closes .unreserved (expandTokens tokens params))
    (h : Reads params tokens) : Reads params (.var v :: tokens) := by
  obtain ⟨m, hwalk, hcaptures⟩ := h
  have htext : expandTokens (.var v :: tokens) params =
      Percent.encode s ++ expandTokens tokens params := by
    rw [expandTokens, List.flatMap_cons, expandToken_var hlookup]
    rfl
  have hends : (Boundary.before tokens).ends .unreserved 1
      (Percent.encode s ++ expandTokens tokens params) = [(Percent.encode s).length] :=
    Boundary.ends_append (by decide) (Percent.units_encode s) hcloses
      (List.length_pos_iff.2 (Percent.encode_ne_nil hs))
  refine ⟨m.withCaptures [⟨v, .one (Percent.encode s)⟩], ?_, ?_⟩
  · rw [htext, walk, hends, matchRun, List.findSome?_singleton, List.drop_left, List.take_left,
      hwalk, Option.map_some]
  · rw [List.flatMap_cons, Token.vars, Parameters.defined_append,
      Parameters.defined_singleton hlookup, List.map_append, ← hcaptures]
    rfl

/-- An operator other than `+` takes what it takes, and the walk goes on behind it. -/
theorem operator {op : Operator} (hform : op.form ≠ .reserved)
    (htake : op.take (Boundary.before tokens)
      (expandOperator op params ++ expandTokens tokens params) =
        ((params.defined op.vars).map Capture.written, expandTokens tokens params))
    (h : Reads params tokens) : Reads params (.operator op :: tokens) := by
  obtain ⟨m, hwalk, hcaptures⟩ := h
  refine ⟨m.withCaptures ((params.defined op.vars).map Capture.written), ?_, ?_⟩
  · show walk (.operator op :: tokens)
      (expandOperator op params ++ expandTokens tokens params) = _
    rw [walk, if_neg (by simpa using hform), htake]
    simp only [hwalk, Option.map_some]
  · rw [List.flatMap_cons, Token.vars, Parameters.defined_append, List.map_append, ← hcaptures]
    rfl

/-- What was written for the variables of a pattern is matched again. -/
theorem match? {p : Pattern} (h : Reads params p.tokens) (hambiguous : p.isAmbiguous = false) :
    ∃ m, p.match? (p.template.expand params) = some m ∧
      m.captures = (params.defined p.template.vars).map Capture.written := by
  obtain ⟨m, hwalk, hcaptures⟩ := h
  exact ⟨m, (Pattern.match?_eq_walk hambiguous _).trans hwalk, hcaptures⟩

end Reads

/-! ## 3.  Operators of a path -/

/-- The forms of the operators that may end a path, in the order in which they stand. -/
def pathForms : List OperatorForm := [.pathSegments, .pathParameters, .queryParameters]

/-- A value that fills a segment: a text that is not empty, or a list that shows a
comma. -/
def OneOrMany.FillsSegment : OneOrMany Text → Prop
  | one s => s ≠ []
  | many items => 2 ≤ items.length

theorem OneOrMany.FillsSegment.joinItems_ne_nil {value : OneOrMany Text} (h : value.FillsSegment) :
    joinItems Percent.encode value ≠ [] := by
  cases value with
  | one s =>
    rw [joinItems_one]
    exact Percent.encode_ne_nil h
  | many items =>
    rcases items with _ | ⟨a, _ | ⟨b, items⟩⟩
    · exact absurd h (Nat.not_succ_le_zero 1)
    · exact absurd h (Nat.not_succ_le_self 1)
    · show Text.joined [','] (Percent.encode a :: Percent.encode b :: items.map Percent.encode) ≠ []
      rw [Text.joined_cons_cons]
      simp

/-- An operator whose variables can be told apart, and have values for its segments if
it writes segments. -/
structure Operator.Fits (op : Operator) (params : Parameters) : Prop where
  /-- The names are distinct. -/
  names : (op.vars.map Variable.name).Nodup
  /-- The names are names. -/
  isName : ∀ v ∈ op.vars, isName v.name = true
  /-- Every segment is filled. -/
  segments : op.form = .pathSegments →
    ∀ v ∈ op.vars, ∃ value, params.lookup v = some value ∧ value.FillsSegment

section Take

variable {op : Operator} {params : Parameters} {b : Boundary} {rest : Text}

theorem Operator.Fits.groups (h : op.Fits params) :
    ∀ entry ∈ params.defined op.vars, op.Groups entry := by
  intro entry hentry
  obtain ⟨hmem, hlookup⟩ := Parameters.mem_defined.1 hentry
  exact ⟨Operator.found_of_mem h.names hmem, h.isName _ hmem,
    Parameters.items_ne_nil_of_lookup hlookup⟩

theorem take_pathSegments (hform : op.form = .pathSegments) (h : op.Fits params)
    (hb : b.isOutside .unreservedList = true) (hrest : CharClass.unreservedList.Stops rest) :
    op.take b (expandOperator op params ++ rest) =
      ((params.defined op.vars).map Capture.written, rest) := by
  have hfilled := h.segments hform
  have hvars : (params.defined op.vars).map Prod.fst = op.vars :=
    Parameters.map_fst_defined fun v hv => (hfilled v hv).imp fun _ => And.left
  have hitems : ∀ entry ∈ params.defined op.vars, entry.2.items ≠ [] :=
    fun entry hentry => Parameters.items_ne_nil_of_lookup (Parameters.mem_defined.1 hentry).2
  have hwritten : ∀ entry ∈ params.defined op.vars, joinItems Percent.encode entry.2 ≠ [] := by
    intro entry hentry
    obtain ⟨hmem, hlookup⟩ := Parameters.mem_defined.1 hentry
    obtain ⟨value, hvalue, hfills⟩ := hfilled entry.1 hmem
    obtain rfl : entry.2 = value := Option.some.inj (hlookup.symm.trans hvalue)
    exact hfills.joinItems_ne_nil
  have htake := takeSegments_append hitems hwritten hb hrest
  rw [hvars] at htake
  simp only [Operator.take, expandOperator, hform]
  exact htake

theorem take_pathParameters (hform : op.form = .pathParameters) (h : op.Fits params)
    (hb : b.isOutside .unreservedList = true) (hrest : CharClass.unreservedList.Stops rest)
    (hstop : stripLiteral? [';'] rest = none) :
    op.take b (expandOperator op params ++ rest) =
      ((params.defined op.vars).map Capture.written, rest) := by
  have hgroups := h.groups
  simp only [Operator.take, expandOperator, hform]
  cases hdefined : params.defined op.vars with
  | nil =>
    rw [List.flatMap_nil, List.nil_append, takePairs, takePair_of_stripLiteral? hstop]
    rfl
  | cons entry entries =>
    rw [hdefined] at hgroups
    rw [List.flatMap_cons, List.append_assoc]
    exact takePairs_append hgroups hb rfl hrest hstop [';']

theorem take_queryParameters (hform : op.form = .queryParameters) (h : op.Fits params)
    (hb : b.isOutside .unreservedList = true) :
    op.take b (expandOperator op params ++ []) =
      ((params.defined op.vars).map Capture.written, []) := by
  have hgroups := h.groups
  simp only [Operator.take, expandOperator, hform]
  cases hdefined : params.defined op.vars with
  | nil => rfl
  | cons entry entries =>
    rw [hdefined] at hgroups
    have htext : '?' :: Text.joined ['&'] ((entry :: entries).map Template.pair) ++ [] =
        ['?'] ++ Template.pair entry ++
          ((entries.flatMap fun e => ['&'] ++ Template.pair e) ++ []) := by
      rw [List.map_cons, Text.joined_cons, List.flatMap_map, List.append_nil, List.append_nil]
      rfl
    show takePairs op b ['?'] ['&']
      ('?' :: Text.joined ['&'] ((entry :: entries).map Template.pair) ++ []) = _
    rw [htext]
    exact takePairs_append hgroups hb rfl (CharClass.stops_nil _) rfl ['?']

end Take

theorem mem_pathForms {form : OperatorForm} :
    form ∈ pathForms ↔ form = .pathSegments ∨ form = .pathParameters ∨ form = .queryParameters := by
  simp [pathForms]

/-- An expanded operator is empty or begins with its symbol. -/
theorem head?_expandOperator {op : Operator} (hform : op.form ∈ pathForms) {params : Parameters}
    {c : Char} (hc : c ∈ (expandOperator op params).head?) : op.form.text = [c] := by
  rcases mem_pathForms.1 hform with hform | hform | hform
  all_goals
    simp only [expandOperator, hform] at hc
    cases hdefined : params.defined op.vars with
    | nil =>
      rw [hdefined] at hc
      cases hc
    | cons entry entries =>
      rw [hdefined] at hc
      cases hc
      rw [hform]
      rfl

theorem expandTokens_operators_cons (op : Operator) (ops : List Operator) (params : Parameters) :
    expandTokens ((op :: ops).map .operator) params =
      expandOperator op params ++ expandTokens (ops.map .operator) params := rfl

/-- What operators expand to begins with the symbol of one of them, if it is not
empty. -/
theorem exists_of_head?_expandTokens {ops : List Operator}
    (hforms : ∀ op ∈ ops, op.form ∈ pathForms) {params : Parameters} {c : Char}
    (hc : c ∈ (expandTokens (ops.map .operator) params).head?) :
    ∃ op ∈ ops, op.form.text = [c] := by
  induction ops with
  | nil => cases hc
  | cons op ops ih =>
    obtain ⟨hform, hforms⟩ := List.forall_mem_cons.1 hforms
    rw [expandTokens_operators_cons, List.head?_append] at hc
    cases hhead : (expandOperator op params).head? with
    | none =>
      rw [hhead, Option.none_or] at hc
      obtain ⟨next, hnext, htext⟩ := ih hforms hc
      exact ⟨next, List.mem_cons_of_mem op hnext, htext⟩
    | some d =>
      rw [hhead] at hc
      cases hc
      exact ⟨op, List.mem_cons_self, head?_expandOperator hform hhead⟩

/-- The boundary that operators set is free or the symbol of the first of them. -/
theorem before_operators {ops : List Operator} (hforms : ∀ op ∈ ops, op.form ∈ pathForms) :
    Boundary.before (ops.map .operator) = .free ∨
      ∃ op ∈ ops, ∃ c, op.form.text = [c] ∧
        Boundary.before (ops.map .operator) = .delimiter c := by
  cases ops with
  | nil => exact Or.inl rfl
  | cons op ops =>
    rw [List.map_cons, Boundary.before]
    rcases mem_pathForms.1 (hforms op List.mem_cons_self) with hform | hform | hform
    · rw [hform]
      exact Or.inl rfl
    · exact Or.inr ⟨op, List.mem_cons_self, ';', by rw [hform]; rfl, by rw [hform]⟩
    · exact Or.inr ⟨op, List.mem_cons_self, '?', by rw [hform]; rfl, by rw [hform]⟩

/-- The operators of a path stop every run before them whose class holds none of their
symbols. -/
theorem closes_operators {ops : List Operator} (hforms : ∀ op ∈ ops, op.form ∈ pathForms)
    {k : CharClass} (hk : k.endsAt '/' = true ∧ k.endsAt ';' = true ∧ k.endsAt '?' = true)
    (params : Parameters) :
    (Boundary.before (ops.map .operator)).Closes k
      (expandTokens (ops.map .operator) params) := by
  have hsymbol : ∀ op ∈ ops, ∀ c, op.form.text = [c] → k.endsAt c = true := by
    intro op hop c hc
    rcases mem_pathForms.1 (hforms op hop) with hform | hform | hform
    · rw [hform] at hc
      cases hc
      exact hk.1
    · rw [hform] at hc
      cases hc
      exact hk.2.1
    · rw [hform] at hc
      cases hc
      exact hk.2.2
  refine ⟨?_, fun c hc => ?_, fun lit closing hliteral => ?_⟩
  · rcases before_operators hforms with hfree | ⟨op, hop, c, hc, hdelimiter⟩
    · rw [hfree]
      rfl
    · rw [hdelimiter]
      exact hsymbol op hop c hc
  · obtain ⟨op, hop, htext⟩ := exists_of_head?_expandTokens hforms hc
    exact hsymbol op hop c htext
  · rcases before_operators hforms with hfree | ⟨op, hop, c, hc, hdelimiter⟩
    · rw [hfree] at hliteral
      cases hliteral
    · rw [hdelimiter] at hliteral
      cases hliteral

theorem eq_queryParameters_of_sublist {forms : List OperatorForm}
    (h : (OperatorForm.pathParameters :: forms).Sublist pathForms) :
    ∀ form ∈ forms, form = .queryParameters := by
  intro form hform
  have hlast : forms.Sublist [OperatorForm.queryParameters] := by
    cases h with
    | cons _ h => exact h.of_cons_cons
  exact List.mem_singleton.1 (hlast.subset hform)

theorem eq_nil_of_sublist {forms : List OperatorForm}
    (h : (OperatorForm.queryParameters :: forms).Sublist pathForms) : forms = [] := by
  cases h with
  | cons _ h =>
    cases h with
    | cons _ h => exact List.sublist_nil.1 h.of_cons_cons

/-- **The operators of a path are read back**, from the last one to the first. -/
theorem reads_operators {ops : List Operator}
    (hforms : (ops.map Operator.form).Sublist pathForms) {params : Parameters}
    (hfits : ∀ op ∈ ops, op.Fits params) : Reads params (ops.map .operator) := by
  induction ops with
  | nil => exact Reads.nil
  | cons op ops ih =>
    obtain ⟨hop, hfits⟩ := List.forall_mem_cons.1 hfits
    have hform : op.form ∈ pathForms := hforms.subset List.mem_cons_self
    have hsublist : (ops.map Operator.form).Sublist pathForms := List.sublist_of_cons_sublist hforms
    have hothers : ∀ next ∈ ops, next.form ∈ pathForms :=
      fun next hnext => hsublist.subset (List.mem_map_of_mem hnext)
    have hcloses : (Boundary.before (ops.map .operator)).Closes .unreservedList
        (expandTokens (ops.map .operator) params) :=
      closes_operators hothers ⟨rfl, rfl, rfl⟩ params
    have hrest := ih hsublist hfits
    rcases mem_pathForms.1 hform with hform | hform | hform
    · refine Reads.operator (by rw [hform]; decide) ?_ hrest
      exact take_pathSegments hform hop hcloses.outside hcloses.stops
    · rw [List.map_cons, hform] at hforms
      refine Reads.operator (by rw [hform]; decide) ?_ hrest
      refine take_pathParameters hform hop hcloses.outside hcloses.stops ?_
      cases htext : expandTokens (ops.map .operator) params with
      | nil => rfl
      | cons c rest =>
        have hc : c ∈ (expandTokens (ops.map .operator) params).head? := by
          rw [htext]
          rfl
        obtain ⟨next, hnext, hsymbol⟩ := exists_of_head?_expandTokens hothers hc
        rw [eq_queryParameters_of_sublist hforms _ (List.mem_map_of_mem hnext)] at hsymbol
        cases hsymbol
        rfl
    · rw [List.map_cons, hform] at hforms
      obtain rfl : ops = [] := List.map_eq_nil_iff.1 (eq_nil_of_sublist hforms)
      exact Reads.operator (by rw [hform]; decide) (take_queryParameters hform hop rfl) hrest

/-! ## 4.  Bodies -/

/-- Whether a token sequence is a body: literals and variables, each variable standing
at the end or before a literal that begins with a character that ends a value. -/
def isBody : List Token → Bool
  | [] => true
  | .literal _ :: rest => isBody rest
  | [.var _] => true
  | .var _ :: .literal lit :: rest => lit.head?.any CharClass.unreserved.endsAt && isBody rest
  | _ => false

/-- The literal after a variable stops its value. -/
theorem closes_literal {lit : Text} {k : CharClass} (h : lit.head?.any k.endsAt = true)
    (tokens : List Token) (params : Parameters) :
    (Boundary.before (.literal lit :: tokens)).Closes k
      (expandTokens (.literal lit :: tokens) params) := by
  have htext : expandTokens (.literal lit :: tokens) params =
      lit ++ expandTokens tokens params := rfl
  rw [htext]
  cases lit with
  | nil => cases h
  | cons c lit =>
    refine ⟨h, CharClass.stops_cons h _, ?_⟩
    rintro lit' closing ⟨⟩
    rw [startsWithLiteral, stripLiteral?_append]
    rfl

/-- **A body is read back** in front of the operators of a path. -/
theorem reads_body {body : List Token} (hbody : isBody body = true) {ops : List Operator}
    (hforms : ∀ op ∈ ops, op.form ∈ pathForms) {params : Parameters}
    (hvalues : ∀ v ∈ body.flatMap Token.vars, ∃ s, s ≠ [] ∧ params.lookup v = some (.one s))
    (h : Reads params (ops.map .operator)) : Reads params (body ++ ops.map .operator) := by
  fun_induction isBody body with
  | case1 => exact h
  | case2 lit rest ih => exact (ih hbody hvalues).literal lit
  | case3 v =>
    obtain ⟨s, hs, hlookup⟩ := hvalues v List.mem_cons_self
    exact h.var hlookup hs (closes_operators hforms ⟨rfl, rfl, rfl⟩ params)
  | case4 v lit rest ih =>
    rw [Bool.and_eq_true] at hbody
    obtain ⟨s, hs, hlookup⟩ := hvalues v List.mem_cons_self
    have hrest := ih hbody.2 fun w hw => hvalues w (List.mem_cons_of_mem v hw)
    exact (hrest.literal lit).var hlookup hs (closes_literal hbody.1 _ params)
  | case5 => cases hbody

theorem isGreedy_of_mem_pathForms {op : Operator} (h : op.form ∈ pathForms) :
    (Token.operator op).isGreedy = false := by
  rw [Token.isGreedy]
  rcases mem_pathForms.1 h with hform | hform | hform
  all_goals
    rw [hform]
    rfl

theorem hasGreedyNeighbours_operators {ops : List Operator}
    (hforms : ∀ op ∈ ops, op.form ∈ pathForms) :
    hasGreedyNeighbours (ops.map .operator) = false := by
  induction ops with
  | nil => rfl
  | cons op ops ih =>
    obtain ⟨hform, hforms⟩ := List.forall_mem_cons.1 hforms
    refine hasGreedyNeighbours_cons_iff.2 ⟨fun hgreedy => ?_, ih hforms⟩
    rw [isGreedy_of_mem_pathForms hform] at hgreedy
    cases hgreedy

/-- A body in front of the operators of a path leaves no two greedy tokens side by
side. -/
theorem hasGreedyNeighbours_body {body : List Token} (hbody : isBody body = true)
    {ops : List Operator} (hforms : ∀ op ∈ ops, op.form ∈ pathForms) :
    hasGreedyNeighbours (body ++ ops.map .operator) = false := by
  have hops := hasGreedyNeighbours_operators hforms
  fun_induction isBody body with
  | case1 => exact hops
  | case2 lit rest ih =>
    refine hasGreedyNeighbours_cons_iff.2 ⟨fun hgreedy => ?_, ih hbody⟩
    cases hgreedy
  | case3 v =>
    refine hasGreedyNeighbours_cons_iff.2 ⟨fun _ next hnext => ?_, hops⟩
    have hhead : (ops.map Token.operator).head? = some next := hnext
    rw [List.head?_map] at hhead
    obtain ⟨op, hop, rfl⟩ := Option.map_eq_some_iff.1 hhead
    exact isGreedy_of_mem_pathForms (hforms op (List.mem_of_head? hop))
  | case4 v lit rest ih =>
    rw [Bool.and_eq_true] at hbody
    refine hasGreedyNeighbours_cons_iff.2 ⟨fun _ next hnext => ?_,
      hasGreedyNeighbours_cons_iff.2 ⟨fun hgreedy => ?_, ih hbody.2⟩⟩
    · cases hnext
      rfl
    · cases hgreedy
  | case5 => cases hbody

end UriRouting
