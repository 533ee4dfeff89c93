import UriRouting.Proofs.Pattern.Boundary
import UriRouting.Proofs.Template.RoundTrip
import UriRouting.Proofs.Text.Size

/-!
# The split that a walk finds

Matching divides a text among the tokens of a pattern.  For patterns of literals
and greedy tokens this file says which division a walk finds: among all that are
allowed, the one whose greedy pieces are longest, earlier pieces counting before
later ones.

## 1.  Splits

`Split tokens text pieces` says that the pieces make up the text and that each is
one its token accepts.  `greedyLengths` lists the lengths of the greedy pieces, in
bytes, and `GreatestSplit` is the split that beats every other one in the
lexicographic order of these lists.

## 2.  The ends of a greedy piece

In a pattern without greedy neighbours a greedy token stands before a literal or at
the end.  Either way `Boundary.ends` lists, longest first, every length that a
split could give it (`mem_ends_of_split`), so the first end after which the rest
matches is the longest one that leaves the rest a split.

## 3.  The walk

`FindsGreatest` says that a walk succeeds exactly when there is a split, and then
takes the greatest one.  It passes from the tokens after a literal
(`FindsGreatest.literal`) and from those after a greedy token
(`FindsGreatest.greedy`) to the whole, and so holds of every such pattern
(`walk_findsGreatest`).
-/

namespace UriRouting

/-! ## 1.  Splits -/

namespace Token

/-- Whether a token accepts a piece that stands at the front of a text.  A literal
accepts the texts that equal it up to the case of its escapes, a wildcard every
text, and a variable or the operator `+` a piece of at least one byte that is no
longer than the run of its class. -/
def Accepts : Token → (text piece : Text) → Prop
  | literal lit, _, piece => upperEscapes piece = upperEscapes lit
  | wildcard, _, _ => True
  | var _, text, piece =>
      1 ≤ piece.utf8Size ∧ piece.utf8Size ≤ CharClass.unreserved.runBytes text
  | operator op, text, piece =>
      op.form = .reserved ∧ 1 ≤ piece.utf8Size ∧
        piece.utf8Size ≤ CharClass.reserved.runBytes text

/-- What a literal or greedy token captures from its piece. -/
def capturesOf : Token → Text → List Capture
  | literal _, _ => []
  | wildcard, _ => []
  | var v, piece => [⟨v, .one piece⟩]
  | operator op, piece => positionalCaptures op.vars piece

end Token

/-- The pieces make up the text, one after another, and each is accepted by its
token. -/
inductive Split : List Token → Text → List Text → Prop where
  | nil : Split [] [] []
  | cons {token : Token} {tokens : List Token} {piece rest : Text} {pieces : List Text}
      (accepts : token.Accepts (piece ++ rest) piece) (split : Split tokens rest pieces) :
      Split (token :: tokens) (piece ++ rest) (piece :: pieces)

/-- The lengths in bytes of the pieces that greedy tokens take. -/
def greedyLengths : List Token → List Text → List Nat
  | token :: tokens, piece :: pieces =>
      if token.isGreedy then piece.utf8Size :: greedyLengths tokens pieces
      else greedyLengths tokens pieces
  | _, _ => []

/-- The captures of a split, in token order. -/
def splitCaptures : List Token → List Text → List Capture
  | token :: tokens, piece :: pieces => token.capturesOf piece ++ splitCaptures tokens pieces
  | _, _ => []

/-- A split whose list of greedy lengths is greater than that of any other split,
in lexicographic order. -/
structure GreatestSplit (tokens : List Token) (text : Text) (pieces : List Text) : Prop where
  /-- The pieces are a split. -/
  split : Split tokens text pieces
  /-- Every other split has a lesser list of greedy lengths. -/
  greatest : ∀ other, Split tokens text other →
    other = pieces ∨ List.Lex (· < ·) (greedyLengths tokens other) (greedyLengths tokens pieces)

theorem split_nil_iff {text : Text} {pieces : List Text} :
    Split [] text pieces ↔ text = [] ∧ pieces = [] := by
  constructor
  · intro h
    cases h
    exact ⟨rfl, rfl⟩
  · rintro ⟨rfl, rfl⟩
    exact Split.nil

theorem split_cons_iff {token : Token} {tokens : List Token} {text : Text} {pieces : List Text} :
    Split (token :: tokens) text pieces ↔
      ∃ piece rest others, text = piece ++ rest ∧ pieces = piece :: others ∧
        token.Accepts text piece ∧ Split tokens rest others := by
  constructor
  · intro h
    cases h with
    | cons accepts split => exact ⟨_, _, _, rfl, rfl, accepts, split⟩
  · rintro ⟨piece, rest, others, rfl, rfl, accepts, split⟩
    exact Split.cons accepts split

/-! ## 2.  The ends of a greedy piece -/

namespace Token

/-- The class of the run that a greedy token takes. -/
def charClass : Token → CharClass
  | var _ => .unreserved
  | operator _ => .reserved
  | _ => .any

/-- The least number of characters that a greedy token takes. -/
def leastLength : Token → Nat
  | var _ => 1
  | operator _ => 1
  | _ => 0

/-- A greedy token accepts the beginnings of a text that have at least its least
length and lie in the run of its class. -/
theorem accepts_take_iff {token : Token} (h : token.isGreedy = true) {text : Text} {n : Nat}
    (hn : n ≤ text.length) :
    token.Accepts text (text.take n) ↔ token.leastLength ≤ n ∧ n ≤ token.charClass.run text := by
  have hleast : 1 ≤ Text.utf8Size (text.take n) ↔ 1 ≤ n := by
    rw [Text.utf8Size_pos_iff, List.length_take, Nat.min_eq_left hn]
  have hrun : ∀ k : CharClass, Text.utf8Size (text.take n) ≤ k.runBytes text ↔ n ≤ k.run text :=
    fun k => Text.utf8Size_take_le_iff hn
  cases token with
  | literal t => cases h
  | wildcard => exact ⟨fun _ => ⟨Nat.zero_le n, hn⟩, fun _ => trivial⟩
  | var v => rw [Accepts, hleast, hrun]; rfl
  | operator op =>
    have hform : op.form = .reserved := by simpa [isGreedy] using h
    rw [Accepts, hleast, hrun, and_iff_right hform]
    rfl

end Token

/-- A walk at a greedy token tries the ends that the tokens after it allow. -/
theorem walk_greedy {token : Token} (h : token.isGreedy = true) (tokens : List Token)
    (text : Text) :
    walk (token :: tokens) text =
      matchRun ((Boundary.before tokens).ends token.charClass token.leastLength text)
        token.capturesOf (walk tokens) text := by
  cases token with
  | literal t => cases h
  | wildcard => rfl
  | var v => rfl
  | operator op =>
    rw [walk, if_pos (show (op.form == .reserved) = true from h)]
    rfl

/-- In a sequence of literals and greedy tokens without greedy neighbours, a greedy
token is the last one or stands before a literal. -/
theorem eq_nil_or_literal_of_greedy {token : Token} {tokens : List Token}
    (hgreedy : token.isGreedy = true)
    (hsimple : ∀ next ∈ tokens, next.isLiteral = true ∨ next.isGreedy = true)
    (hneighbours : hasGreedyNeighbours (token :: tokens) = false) :
    tokens = [] ∨ ∃ lit rest, tokens = .literal lit :: rest := by
  cases tokens with
  | nil => exact Or.inl rfl
  | cons next rest =>
    have hnext := (hasGreedyNeighbours_cons_iff.1 hneighbours).1 hgreedy next rfl
    rcases hsimple next List.mem_cons_self with hliteral | hgreedy'
    · cases next with
      | literal lit => exact Or.inr ⟨lit, rest, rfl⟩
      | wildcard => cases hliteral
      | var v => cases hliteral
      | operator op => cases hliteral
    · rw [hnext] at hgreedy'
      cases hgreedy'

namespace Boundary

/-- An admissible length that leaves the remaining tokens a split is tried. -/
theorem mem_ends_of_split {tokens : List Token}
    (h : tokens = [] ∨ ∃ lit rest, tokens = .literal lit :: rest) {k : CharClass} {least : Nat}
    {text : Text} {n : Nat} (hleast : least ≤ n) (hrun : n ≤ k.run text) (hn : n ≤ text.length)
    {pieces : List Text} (hsplit : Split tokens (text.drop n) pieces) :
    n ∈ (before tokens).ends k least text := by
  rcases h with rfl | ⟨lit, rest, rfl⟩
  · obtain ⟨hdrop, -⟩ := split_nil_iff.1 hsplit
    have hlength : text.length ≤ n := List.drop_eq_nil_iff.1 hdrop
    have hmax := k.run_le_length text
    exact mem_ends_free.2 ⟨hleast, by omega⟩
  · obtain ⟨piece, others, -, hdrop, -, haccepts, -⟩ := split_cons_iff.1 hsplit
    refine mem_ends_literal.2 ⟨hleast, hrun, hn, startsWithLiteral_iff.2 ?_⟩
    exact ⟨piece, others, hdrop, haccepts⟩

end Boundary

/-! ## 3.  The walk -/

/-- On a descending list the first success is the greatest. -/
theorem exists_greatest_of_findSome? {β : Type} {l : List Nat} (hl : l.Pairwise (· > ·))
    {f : Nat → Option β} {b : β} (h : l.findSome? f = some b) :
    ∃ n ∈ l, f n = some b ∧ ∀ m ∈ l, n < m → f m = none := by
  obtain ⟨before, n, after, rfl, hn, hbefore⟩ := List.findSome?_eq_some_iff.1 h
  refine ⟨n, by simp, hn, fun m hm hlt => ?_⟩
  rcases List.mem_append.1 hm with hm | hm
  · exact hbefore m hm
  · have hafter := (List.pairwise_append.1 hl).2.1
    rcases List.mem_cons.1 hm with rfl | hm
    · exact absurd hlt (Nat.lt_irrefl m)
    · have hgt := (List.pairwise_cons.1 hafter).1 m hm
      omega

/-- The piece of a literal is as long as the literal, so no other split begins with
another piece. -/
theorem GreatestSplit.cons_literal {lit piece rest : Text} {tokens : List Token}
    {pieces : List Text} (hpiece : upperEscapes piece = upperEscapes lit)
    (h : GreatestSplit tokens rest pieces) :
    GreatestSplit (.literal lit :: tokens) (piece ++ rest) (piece :: pieces) := by
  refine ⟨Split.cons hpiece h.split, fun other hother => ?_⟩
  obtain ⟨piece', rest', others, happend, rfl, haccepts, hsplit⟩ := split_cons_iff.1 hother
  have hlength : piece'.length = piece.length := by
    rw [← length_upperEscapes piece', ← length_upperEscapes piece, hpiece]
    exact congrArg List.length haccepts
  obtain ⟨rfl, rfl⟩ := List.append_inj happend hlength.symm
  rcases h.greatest others hsplit with rfl | hlex
  · exact Or.inl rfl
  · exact Or.inr hlex

/-- A greedy piece that is as long as the rest allows makes a greatest split of the
rest one of the whole. -/
theorem GreatestSplit.cons_greedy {token : Token} (hgreedy : token.isGreedy = true) {text : Text}
    {n : Nat} (hn : n ≤ text.length) (haccepts : token.Accepts text (text.take n))
    {tokens : List Token} {pieces : List Text} (h : GreatestSplit tokens (text.drop n) pieces)
    (hlonger : ∀ m, n < m → m ≤ text.length → token.Accepts text (text.take m) →
      ∀ others, ¬Split tokens (text.drop m) others) :
    GreatestSplit (token :: tokens) text (text.take n :: pieces) := by
  refine ⟨split_cons_iff.2 ⟨_, _, _, (List.take_append_drop n text).symm, rfl, haccepts, h.split⟩,
    fun other hother => ?_⟩
  obtain ⟨piece, rest, others, htext, rfl, haccepts', hsplit⟩ := split_cons_iff.1 hother
  have hpiece : piece = text.take piece.length := by rw [htext, List.take_left]
  have hrest : rest = text.drop piece.length := by rw [htext, List.drop_left]
  have hlength : piece.length ≤ text.length := by
    rw [htext, List.length_append]
    omega
  rw [hrest] at hsplit
  rw [hpiece] at haccepts'
  simp only [greedyLengths, hgreedy, if_true]
  rcases Nat.lt_trichotomy piece.length n with hlt | heq | hgt
  · refine Or.inr (List.Lex.rel ?_)
    rw [hpiece]
    exact Text.utf8Size_take_lt hlt (Nat.lt_of_lt_of_le hlt hn)
  · rw [heq] at hsplit hpiece
    rcases h.greatest others hsplit with rfl | hlex
    · exact Or.inl (by rw [hpiece])
    · exact Or.inr (by rw [hpiece]; exact List.Lex.cons hlex)
  · exact absurd hsplit (hlonger piece.length hgt hlength haccepts' others)

/-- What a walk over a text is to give: the captures of the greatest split if there
is a split, and nothing otherwise. -/
structure FindsGreatest (tokens : List Token) (text : Text) : Prop where
  /-- A match is that of the greatest split. -/
  of_some : ∀ m, walk tokens text = some m →
    ∃ pieces, GreatestSplit tokens text pieces ∧ m.captures = splitCaptures tokens pieces
  /-- A failure means that there is no split. -/
  of_none : walk tokens text = none → ∀ pieces, ¬Split tokens text pieces

theorem FindsGreatest.nil (text : Text) : FindsGreatest [] text := by
  cases text with
  | nil =>
    refine ⟨fun m hm => ?_, fun h => ?_⟩
    · cases hm
      exact ⟨[], ⟨Split.nil, fun other hother => Or.inl (split_nil_iff.1 hother).2⟩, rfl⟩
    · cases h
  | cons c text =>
    refine ⟨fun m hm => ?_, fun _ pieces hsplit => ?_⟩
    · cases hm
    · cases (split_nil_iff.1 hsplit).1

/-- A walk at a literal takes the one piece that the literal accepts. -/
theorem FindsGreatest.literal {tokens : List Token} (h : ∀ rest, FindsGreatest tokens rest)
    (lit text : Text) : FindsGreatest (.literal lit :: tokens) text := by
  have hwalk : walk (.literal lit :: tokens) text =
      stripLiteral? lit text >>= fun rest => (walk tokens rest).map (Match.withLiteral lit) := rfl
  cases hstrip : stripLiteral? lit text with
  | none =>
    refine ⟨fun m hm => ?_, fun _ pieces hsplit => ?_⟩
    · rw [hwalk, hstrip] at hm
      cases hm
    · obtain ⟨piece, rest, others, rfl, -, haccepts, -⟩ := split_cons_iff.1 hsplit
      rw [stripLiteral?_eq_some_iff.2 ⟨piece, rfl, haccepts⟩] at hstrip
      cases hstrip
  | some rest =>
    have hmap : walk (.literal lit :: tokens) text =
        (walk tokens rest).map (Match.withLiteral lit) := by
      rw [hwalk, hstrip]
      rfl
    obtain ⟨piece, rfl, hpiece⟩ := stripLiteral?_eq_some_iff.1 hstrip
    refine ⟨fun m hm => ?_, fun hnone pieces hsplit => ?_⟩
    · rw [hmap] at hm
      obtain ⟨tail, htail, rfl⟩ := Option.map_eq_some_iff.1 hm
      obtain ⟨pieces, hgreatest, hcaptures⟩ := (h rest).of_some tail htail
      exact ⟨piece :: pieces, hgreatest.cons_literal hpiece, hcaptures⟩
    · rw [hmap, Option.map_eq_none_iff] at hnone
      obtain ⟨piece', rest', others, happend, -, haccepts, hothers⟩ := split_cons_iff.1 hsplit
      rw [stripLiteral?_eq_some_iff.2 ⟨piece', happend, haccepts⟩] at hstrip
      cases hstrip
      exact (h rest).of_none hnone others hothers

/-- A walk at a greedy token takes the longest piece that leaves the rest a split. -/
theorem FindsGreatest.greedy {token : Token} {tokens : List Token}
    (hgreedy : token.isGreedy = true)
    (hnext : tokens = [] ∨ ∃ lit rest, tokens = .literal lit :: rest)
    (h : ∀ rest, FindsGreatest tokens rest) (text : Text) :
    FindsGreatest (token :: tokens) text := by
  have hends : ∀ n, n ∈ (Boundary.before tokens).ends token.charClass token.leastLength text →
      n ≤ text.length ∧ token.Accepts text (text.take n) := by
    intro n hn
    obtain ⟨hleast, hend⟩ := Boundary.isEnd_of_mem_ends hn
    have hlength := Nat.le_trans hend.le (token.charClass.run_le_length text)
    exact ⟨hlength, (Token.accepts_take_iff hgreedy hlength).2 ⟨hleast, hend.le⟩⟩
  have htried : ∀ n others, n ≤ text.length → token.Accepts text (text.take n) →
      Split tokens (text.drop n) others →
      n ∈ (Boundary.before tokens).ends token.charClass token.leastLength text := by
    intro n others hlength haccepts hsplit
    obtain ⟨hleast, hrun⟩ := (Token.accepts_take_iff hgreedy hlength).1 haccepts
    exact Boundary.mem_ends_of_split hnext hleast hrun hlength hsplit
  refine ⟨fun m hm => ?_, fun hnone pieces hsplit => ?_⟩
  · rw [walk_greedy hgreedy, matchRun] at hm
    obtain ⟨n, hn, htake, hlonger⟩ :=
      exists_greatest_of_findSome? (Boundary.pairwise_ends_before hnext _ _ _) hm
    obtain ⟨hlength, haccepts⟩ := hends n hn
    obtain ⟨tail, htail, rfl⟩ := Option.map_eq_some_iff.1 htake
    obtain ⟨pieces, hgreatest, hcaptures⟩ := (h (text.drop n)).of_some tail htail
    refine ⟨text.take n :: pieces, hgreatest.cons_greedy hgreedy hlength haccepts ?_, ?_⟩
    · intro k hk hklength hkaccepts others hsplit
      have hfail := hlonger k (htried k others hklength hkaccepts hsplit) hk
      exact (h (text.drop k)).of_none (Option.map_eq_none_iff.1 hfail) others hsplit
    · rw [splitCaptures, ← hcaptures]
      rfl
  · rw [walk_greedy hgreedy, matchRun, List.findSome?_eq_none_iff] at hnone
    obtain ⟨piece, rest, others, htext, -, haccepts, hothers⟩ := split_cons_iff.1 hsplit
    have hlength : piece.length ≤ text.length := by
      rw [htext, List.length_append]
      exact Nat.le_add_right _ _
    have htake : text.take piece.length = piece := by rw [htext, List.take_left]
    have hdrop : text.drop piece.length = rest := by rw [htext, List.drop_left]
    rw [← htake] at haccepts
    rw [← hdrop] at hothers
    have hfail := hnone piece.length (htried piece.length others hlength haccepts hothers)
    exact (h (text.drop piece.length)).of_none (Option.map_eq_none_iff.1 hfail) others hothers

/-- A walk over literals and greedy tokens without greedy neighbours finds the
greatest split.  The induction is on the tokens, for every text, since the ends of
one piece decide where the next one begins. -/
theorem walk_findsGreatest {tokens : List Token}
    (hsimple : ∀ token ∈ tokens, token.isLiteral = true ∨ token.isGreedy = true)
    (hneighbours : hasGreedyNeighbours tokens = false) (text : Text) :
    FindsGreatest tokens text := by
  induction tokens generalizing text with
  | nil => exact FindsGreatest.nil text
  | cons token tokens ih =>
    obtain ⟨htoken, htokens⟩ := List.forall_mem_cons.1 hsimple
    have hrest := ih htokens (hasGreedyNeighbours_cons_iff.1 hneighbours).2
    rcases htoken with hliteral | hgreedy
    · cases token with
      | literal lit => exact FindsGreatest.literal hrest lit text
      | wildcard => cases hliteral
      | var v => cases hliteral
      | operator op => cases hliteral
    · have hnext := eq_nil_or_literal_of_greedy hgreedy htokens hneighbours
      exact FindsGreatest.greedy hgreedy hnext hrest text

/-- **A walk finds the greatest split.**  A template of literals, wildcards, variables
and operators `+`, no two greedy tokens side by side, matches a text exactly when
the text can be split among its tokens; its captures are then those of the split
whose greedy pieces are longest, earlier pieces counting before later ones. -/
theorem walk_greatestSplit (t : Template)
    (hsimple : ∀ token ∈ t.tokens, token.isLiteral = true ∨ token.isGreedy = true)
    (hneighbours : hasGreedyNeighbours t.tokens = false) (uri : Text) :
    ((walk t.tokens uri).isSome = true ↔ ∃ pieces, Split t.tokens uri pieces) ∧
      ∀ m, walk t.tokens uri = some m →
        ∃ pieces, GreatestSplit t.tokens uri pieces ∧
          m.captures = splitCaptures t.tokens pieces := by
  have hfinds := walk_findsGreatest hsimple hneighbours uri
  refine ⟨?_, hfinds.of_some⟩
  constructor
  · intro h
    obtain ⟨m, hm⟩ := Option.isSome_iff_exists.1 h
    obtain ⟨pieces, hgreatest, -⟩ := hfinds.of_some m hm
    exact ⟨pieces, hgreatest.split⟩
  · rintro ⟨pieces, hsplit⟩
    cases hwalk : walk t.tokens uri with
    | none => exact absurd hsplit (hfinds.of_none hwalk pieces)
    | some m => rfl

/-- Of the two dashes, the second one ends the first variable; the escape in the
text is the one in the pattern. -/
theorem walk_greatestSplit_twoDashes :
    ∃ t : Template, t.source = "\x7ba\x7d-\x7bb\x7d%2F\x7b+c,d\x7d".toList ∧
      (∀ token ∈ t.tokens, token.isLiteral = true ∨ token.isGreedy = true) ∧
      hasGreedyNeighbours t.tokens = false ∧
      ∃ pieces, GreatestSplit t.tokens "x-y-z%2f1,2,3".toList pieces ∧
        splitCaptures t.tokens pieces =
          [⟨⟨['a'], none, none⟩, .one ['x', '-', 'y']⟩, ⟨⟨['b'], none, none⟩, .one ['z']⟩,
            ⟨⟨['c'], none, none⟩, .one ['1']⟩, ⟨⟨['d'], none, none⟩, .one ['2', ',', '3']⟩] := by
  let t : Template :=
    ⟨"\x7ba\x7d-\x7bb\x7d%2F\x7b+c,d\x7d".toList,
      [.var ⟨['a'], none, none⟩, .literal ['-'], .var ⟨['b'], none, none⟩,
        .literal ['%', '2', 'F'],
        .operator ⟨.reserved, [⟨['c'], none, none⟩, ⟨['d'], none, none⟩]⟩], by rfl⟩
  have hsimple : ∀ token ∈ t.tokens, token.isLiteral = true ∨ token.isGreedy = true := by decide
  have hneighbours : hasGreedyNeighbours t.tokens = false := by decide
  obtain ⟨-, hcaptures⟩ :=
    walk_greatestSplit t hsimple hneighbours "x-y-z%2f1,2,3".toList
  refine ⟨t, rfl, hsimple, hneighbours, ?_⟩
  obtain ⟨pieces, hgreatest, heq⟩ := hcaptures _ (by rfl)
  exact ⟨pieces, hgreatest, heq.symm⟩

end UriRouting
