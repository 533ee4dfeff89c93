import UriRouting.CommandLine.Outcome
import UriRouting.Proofs.Except
import UriRouting.Proofs.Text.Fields

/-!
# Parameters from pairs

The command line gives parameters as texts `NAME=VALUE`, and a name may come back any number
of times, with other names between.  This file says what the parameters hold in the end.

## 1.  Entries

`Dict.perm_entries_of_get?`: an entry of a map can be taken out.

## 2.  Pairs

A pair is cut at its first `=`.  `Parameters.valuesFor` are the values that a list of pairs
gives to a name, and `Parameters.held` is how a name holds them.

## 3.  One more pair

`Parameters.Collects` relates parameters to the pairs that have been read.
`Parameters.Collects.add` is the step: it carries over to one more pair, whether its name is
new, holds a single value or holds a list.

## 4.  All pairs

`Parameters.ofPairs_collects`: the parameters collect the pairs, unless one is no pair.
-/

namespace UriRouting

/-! ## 1.  Entries -/

namespace Dict

variable {κ ν : Type} [DecidableEq κ] {d : Dict κ ν} {k : κ}

theorem entries_erase_of_get?_eq_none (h : d.get? k = none) : (d.erase k).entries = d.entries := by
  rw [get?, Option.map_eq_none_iff, List.find?_eq_none] at h
  refine List.filter_eq_self.2 fun entry hentry => ?_
  simpa using h entry hentry

/-- The entry of a key and the others are all entries. -/
theorem perm_entries_of_get? {v : ν} (h : d.get? k = some v) :
    d.entries.Perm ((k, v) :: (d.erase k).entries) := by
  rw [get?, Option.map_eq_some_iff] at h
  obtain ⟨⟨k', v'⟩, hfind, rfl⟩ := h
  obtain ⟨hkey, before, after, heq, hbefore⟩ := List.find?_eq_some_iff_append.1 hfind
  obtain rfl : k' = k := of_decide_eq_true hkey
  have hmiddle : ((before ++ (k', v') :: after).map Prod.fst).Perm
      (((k', v') :: (before ++ after)).map Prod.fst) := List.perm_middle.map Prod.fst
  have hdistinct := hmiddle.nodup_iff.1 (heq ▸ d.distinct)
  rw [List.map_cons, List.nodup_cons] at hdistinct
  have herase : (d.erase k').entries = before ++ after := by
    show d.entries.filter (fun entry => entry.1 ≠ k') = before ++ after
    rw [heq, List.filter_append, List.filter_cons_of_neg (by simp), ← List.filter_append]
    refine List.filter_eq_self.2 fun entry hentry => ?_
    refine decide_eq_true fun hsame => hdistinct.1 ?_
    exact List.mem_map.2 ⟨entry, hentry, hsame⟩
  rw [heq, herase]
  exact List.perm_middle

end Dict

namespace Parameters

/-! ## 2.  Pairs -/

/-- The text before the first `=` of a pair. -/
def pairName (pair : Text) : Text := pair.takeWhile (· != '=')

/-- The text behind the first `=` of a pair. -/
def pairValue (pair : Text) : Text := (pair.dropWhile (· != '=')).tail

/-- The values that pairs give to a name, in the order of the pairs. -/
def valuesFor (name : Text) (pairs : List Text) : List Text :=
  (pairs.filter fun pair => pairName pair = name).map pairValue

/-- What a name holds: nothing, its only value, or the list of its values. -/
def held : List Text → Option (OneOrMany Text)
  | [] => none
  | [value] => some (.one value)
  | values => some (.many values)

/-- The single values, each with the name that holds it. -/
def assignments (params : Parameters) : List (Text × Text) :=
  params.entries.flatMap fun entry => entry.2.items.map fun value => (entry.1, value)

theorem splitOnce_of_mem {pair : Text} (h : '=' ∈ pair) :
    pair.splitOnce '=' = some (pairName pair, pairValue pair) := by
  rw [Text.splitOnce_eq_some_iff]
  induction pair with
  | nil => exact absurd h List.not_mem_nil
  | cons c pair ih =>
    by_cases hc : c = '='
    · subst hc
      exact ⟨rfl, List.not_mem_nil⟩
    · obtain ⟨heq, hnot⟩ := ih ((List.mem_cons.1 h).resolve_left (Ne.symm hc))
      have hbne : (c != '=') = true := bne_iff_ne.2 hc
      have hname : pairName (c :: pair) = c :: pairName pair := List.takeWhile_cons_of_pos hbne
      have hvalue : pairValue (c :: pair) = pairValue pair :=
        congrArg List.tail (List.dropWhile_cons_of_pos hbne)
      rw [hname, hvalue, List.cons_append, ← heq]
      exact ⟨rfl, fun hmem => (List.mem_cons.1 hmem).elim (fun h => hc h.symm) hnot⟩

theorem valuesFor_append (name : Text) (pairs : List Text) (pair : Text) :
    valuesFor name (pairs ++ [pair]) =
      valuesFor name pairs ++ if pairName pair = name then [pairValue pair] else [] := by
  rw [valuesFor, List.filter_append, List.map_append, valuesFor]
  congr 1
  by_cases h : pairName pair = name <;> simp [h]

/-- With one more value, a name holds the list of all, or the value if it is the first. -/
theorem held_append (values : List Text) (value : Text) :
    held (values ++ [value]) = some (match held values with
      | none => .one value
      | some present => .many (present.items ++ [value])) := by
  rcases values with _ | ⟨a, _ | ⟨b, values⟩⟩ <;> rfl

/-! ## 3.  One more pair -/

/-- The parameters that a list of pairs gives. -/
structure Collects (params : Parameters) (pairs : List Text) : Prop where
  /-- The names are the texts before the first `=`. -/
  names : ∀ name, name ∈ params.keys ↔ ∃ pair ∈ pairs, pairName pair = name
  /-- Each name holds the values of its pairs, in their order. -/
  values : ∀ name, params.get? name = held (valuesFor name pairs)
  /-- No value is lost, and none is there twice. -/
  assignments : params.assignments.Perm (pairs.map fun pair => (pairName pair, pairValue pair))

theorem collects_empty : Collects Dict.empty [] where
  names name := by simp [Dict.keys, Dict.empty]
  values name := rfl
  assignments := List.Perm.nil

/-- The values of a name can be taken out of the single values. -/
theorem assignments_perm (params : Parameters) (name : Text) :
    params.assignments.Perm
      (((params.get? name).elim [] OneOrMany.items).map (fun value => (name, value)) ++
        assignments (params.erase name)) := by
  cases hget : params.get? name with
  | none =>
    rw [assignments, assignments, Dict.entries_erase_of_get?_eq_none hget]
    exact List.Perm.refl _
  | some present =>
    exact (Dict.perm_entries_of_get? hget).flatMap_right _

/-- A value that is added is one more single value. -/
theorem assignments_add (params : Parameters) (name value : Text) :
    (params.add name value).assignments.Perm (params.assignments ++ [(name, value)]) := by
  let present := (params.get? name).elim [] OneOrMany.items
  let others := assignments (params.erase name)
  have hitems : (params.add name value).assignments =
      (present ++ [value]).map (fun value => (name, value)) ++ others := by
    rw [add, assignments]
    simp only [present]
    cases params.get? name <;> rfl
  calc (params.add name value).assignments
    _ = present.map (fun value => (name, value)) ++ ([(name, value)] ++ others) := by
        rw [hitems, List.map_append, List.append_assoc]
        rfl
    List.Perm _ (present.map (fun value => (name, value)) ++ (others ++ [(name, value)])) :=
        List.Perm.append_left _ List.perm_append_comm
    _ = present.map (fun value => (name, value)) ++ others ++ [(name, value)] :=
        (List.append_assoc _ _ _).symm
    List.Perm _ (params.assignments ++ [(name, value)]) :=
        (assignments_perm params name).symm.append_right _

/-- **One more pair is collected with those before it**, whatever its name holds. -/
theorem Collects.add {params : Parameters} {pairs : List Text} (h : params.Collects pairs)
    (pair : Text) :
    (params.add (pairName pair) (pairValue pair)).Collects (pairs ++ [pair]) where
  names name := by
    rw [Parameters.add, Dict.mem_keys_insert, h.names]
    simp only [List.mem_append, List.mem_singleton, or_and_right, exists_or, exists_eq_left]
    rw [or_comm, eq_comm]
  values name := by
    rw [Parameters.add, Dict.get?_insert, valuesFor_append]
    by_cases hname : pairName pair = name
    · rw [if_pos hname, if_pos hname, hname, h.values]
      exact (held_append _ _).symm
    · rw [if_neg hname, if_neg hname, List.append_nil, h.values]
  assignments := by
    rw [List.map_append]
    exact (assignments_add params _ _).trans (h.assignments.append_right _)

/-! ## 4.  All pairs -/

/-- The parameters with what one more text gives, if it is a pair. -/
def addPair (params : Parameters) (pair : Text) : Except Text Parameters :=
  match pair.splitOnce '=' with
  | some (name, value) => .ok (params.add name value)
  | none => .error pair

theorem ofPairs_eq (pairs : List Text) : ofPairs pairs = pairs.foldlM addPair Dict.empty := rfl

theorem addPair_of_mem {pair : Text} (h : '=' ∈ pair) (params : Parameters) :
    params.addPair pair = .ok (params.add (pairName pair) (pairValue pair)) := by
  rw [addPair, splitOnce_of_mem h]

theorem addPair_of_notMem {pair : Text} (h : '=' ∉ pair) (params : Parameters) :
    params.addPair pair = .error pair := by
  rw [addPair, Text.splitOnce_eq_none_iff.2 h]

/-- What is collected at the start of a run of pairs is collected with them at its end. -/
theorem Collects.foldlM {params : Parameters} {done pairs : List Text} (h : params.Collects done)
    (hpairs : ∀ pair ∈ pairs, '=' ∈ pair) :
    ∃ last, pairs.foldlM addPair params = .ok last ∧ last.Collects (done ++ pairs) := by
  induction pairs generalizing params done with
  | nil => exact ⟨params, rfl, by rwa [List.append_nil]⟩
  | cons pair pairs ih =>
    obtain ⟨hpair, hpairs⟩ := List.forall_mem_cons.1 hpairs
    obtain ⟨last, hlast, hcollects⟩ := ih (h.add pair) hpairs
    rw [List.append_assoc] at hcollects
    exact ⟨last, foldlM_cons_eq_ok_iff.2 ⟨_, addPair_of_mem hpair params, hlast⟩, hcollects⟩

/-- The first text without a `=` stops the run. -/
theorem foldlM_addPair_eq_error {before after : List Text} {pair : Text}
    (hbefore : ∀ q ∈ before, '=' ∈ q) (hpair : '=' ∉ pair) :
    (before ++ pair :: after).foldlM addPair Dict.empty = .error pair := by
  obtain ⟨mid, hmid, -⟩ := collects_empty.foldlM hbefore
  exact foldlM_eq_error_iff.2 ⟨before, pair, after, mid, rfl, hmid, addPair_of_notMem hpair mid⟩

/-- A list of texts has a first one without a `=`, or all of them are pairs. -/
theorem exists_first_or_forall (pairs : List Text) :
    (∃ before pair after, pairs = before ++ pair :: after ∧ (∀ q ∈ before, '=' ∈ q) ∧ '=' ∉ pair) ∨
      ∀ pair ∈ pairs, '=' ∈ pair := by
  cases hfind : pairs.find? fun pair => '=' ∉ pair with
  | none =>
    rw [List.find?_eq_none] at hfind
    exact Or.inr fun pair hpair => by simpa using hfind pair hpair
  | some pair =>
    obtain ⟨hpair, before, after, heq, hbefore⟩ := List.find?_eq_some_iff_append.1 hfind
    exact Or.inl ⟨before, pair, after, heq, fun q hq => by simpa using hbefore q hq,
      of_decide_eq_true hpair⟩

open CommandLine (Failure)

/-- **The parameters of the command line collect its pairs.**  They are refused exactly if
some text has no `=`, and then the first such text is named. -/
theorem ofPairs_collects (pairs : List Text) :
    ((∃ failure, (ofPairs pairs).mapError Failure.ofPair = .error failure) ↔
      ∃ pair ∈ pairs, '=' ∉ pair) ∧
    match (ofPairs pairs).mapError Failure.ofPair with
    | .ok params => params.Collects pairs
    | .error failure =>
        ∃ before pair after, pairs = before ++ pair :: after ∧ (∀ q ∈ before, '=' ∈ q) ∧
          '=' ∉ pair ∧
            failure = ⟨"Expected NAME=VALUE, got '" ++ String.ofList pair ++ "'", []⟩ := by
  rw [ofPairs_eq]
  rcases exists_first_or_forall pairs with ⟨before, pair, after, rfl, hbefore, hpair⟩ | hpairs
  · rw [foldlM_addPair_eq_error hbefore hpair]
    exact ⟨iff_of_true ⟨_, rfl⟩ ⟨pair, List.mem_append_right _ List.mem_cons_self, hpair⟩,
      before, pair, after, rfl, hbefore, hpair, rfl⟩
  · obtain ⟨params, hparams, hcollects⟩ := collects_empty.foldlM hpairs
    rw [hparams]
    exact ⟨iff_of_false nofun fun ⟨pair, hmem, hpair⟩ => hpair (hpairs pair hmem), hcollects⟩

/-- An empty name and an empty value count, and a value may hold further `=`. -/
example : ((ofPairs ["a=1".toList, "=".toList, "a==2".toList, "a=".toList]).toOption.map
    fun params => (params.get? ['a'], params.get? [])) =
      some (some (.many ["1".toList, "=2".toList, []]), some (.one [])) := by
  decide

end Parameters
end UriRouting
