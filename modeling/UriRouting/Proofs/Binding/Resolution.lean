import UriRouting.Binding.Resolution
import UriRouting.Proofs.Pattern.Operator
import UriRouting.Template.Parameters

/-!
# What captures are bound to

Captures are bound one after another, a later one replacing an earlier one of the same
name.

## 1.  The last capture counts

`Binder.boundValues` lists the values of the captures of one name, and `get?_bindAll`
says that the last of them is bound.  Hence captures of distinct names may come in any
order (`get?_bindAll_perm`).

## 2.  Written values

A capture that holds an encoded value is bound to the value, a list of one item
counting as the item (`bindCapture_written`).  When the names are distinct, every
variable gets its own value and no other name gets any (`get?_bindAll_written`).
-/

namespace UriRouting

theorem Pattern.resolve_of_match? {p : Pattern} {uri : Text} {m : Match}
    (h : p.match? uri = some m) (binder : Binder) :
    p.resolve binder uri = .resolved (binder.bindAll m.captures Dict.empty) := by
  rw [resolve, h]

/-! ## 1.  The last capture counts -/

namespace Dict

variable {κ ν β : Type} [DecidableEq κ]

/-- The map in which `k` has the value `v?`, if it is one, and is as before otherwise. -/
def insert? (d : Dict κ ν) (k : κ) (v? : Option ν) : Dict κ ν := v?.elim d (d.insert k)

theorem get?_insert? (d : Dict κ ν) (k k' : κ) (v? : Option ν) :
    (d.insert? k v?).get? k' = (if k = k' then v? else none).or (d.get? k') := by
  cases v? with
  | none =>
    rw [ite_self, Option.none_or]
    rfl
  | some v =>
    show (d.insert k v).get? k' = _
    rw [get?_insert]
    split <;> rfl

/-- Of the values that are written to a key one after another, the last one is read back. -/
theorem get?_foldl_insert? (key : β → κ) (value? : β → Option ν) (l : List β) (d : Dict κ ν)
    (k : κ) :
    (l.foldl (fun d b => d.insert? (key b) (value? b)) d).get? k =
      (l.filterMap fun b => if key b = k then value? b else none).getLast?.or (d.get? k) := by
  induction l generalizing d with
  | nil => rfl
  | cons b l ih =>
    rw [List.foldl_cons, ih, get?_insert?, List.filterMap_cons]
    cases (if key b = k then value? b else none) with
    | none => rw [Option.none_or]
    | some v =>
      -- The value is read back unless a later one replaces it.
      rw [List.getLast?_cons, Option.some_or]
      cases (l.filterMap fun b => if key b = k then value? b else none).getLast? <;> rfl

end Dict

namespace Binder

/-- The values of the captures that have a given name and can be bound, in order. -/
def boundValues (binder : Binder) (name : Text) (captures : List Capture) : List BoundValue :=
  captures.filterMap fun capture =>
    if capture.var.name = name then binder.bindCapture capture else none

theorem boundValues_cons (binder : Binder) (name : Text) (capture : Capture)
    (captures : List Capture) :
    binder.boundValues name (capture :: captures) =
      (if capture.var.name = name then binder.bindCapture capture else none).toList ++
        binder.boundValues name captures := by
  rw [boundValues, List.filterMap_cons]
  cases (if capture.var.name = name then binder.bindCapture capture else none) <;> rfl

theorem bindAll_cons_of_some {binder : Binder} {capture : Capture} {value : BoundValue}
    (h : binder.bindCapture capture = some value) (captures : List Capture) (bindings : Bindings) :
    binder.bindAll (capture :: captures) bindings =
      binder.bindAll captures (bindings.insert capture.var.name value) := by
  rw [bindAll, List.foldl_cons, h]
  rfl

theorem bindAll_eq_foldl (binder : Binder) (captures : List Capture) (bindings : Bindings) :
    binder.bindAll captures bindings =
      captures.foldl (fun bindings capture =>
        bindings.insert? capture.var.name (binder.bindCapture capture)) bindings := by
  unfold bindAll
  congr 1
  funext bindings capture
  cases binder.bindCapture capture <;> rfl

/-- **The last value that can be bound is bound.** -/
theorem get?_bindAll (binder : Binder) (captures : List Capture) (bindings : Bindings)
    (name : Text) :
    (binder.bindAll captures bindings).get? name =
      (binder.boundValues name captures).getLast?.or (bindings.get? name) := by
  rw [bindAll_eq_foldl]
  exact Dict.get?_foldl_insert? _ _ captures bindings name

theorem get?_bindAll_singleton (binder : Binder) (capture : Capture) :
    (binder.bindAll [capture] Dict.empty).get? capture.var.name = binder.bindCapture capture := by
  rw [get?_bindAll, boundValues_cons, if_pos rfl]
  cases binder.bindCapture capture <;> rfl

theorem get?_bindAll_singleton_of_ne (binder : Binder) {capture : Capture} {name : Text}
    (h : capture.var.name ≠ name) : (binder.bindAll [capture] Dict.empty).get? name = none := by
  rw [get?_bindAll, boundValues_cons, if_neg h]
  rfl

/-- Captures are bound over the bindings that were there before. -/
theorem get?_bindAll_or (binder : Binder) (captures : List Capture) (bindings : Bindings)
    (name : Text) :
    (binder.bindAll captures bindings).get? name =
      ((binder.bindAll captures Dict.empty).get? name).or (bindings.get? name) := by
  rw [get?_bindAll, get?_bindAll, Dict.get?_empty, Option.or_none]

/-- A name that is captured once has one value at most. -/
theorem length_boundValues_le (binder : Binder) {captures : List Capture}
    (hnames : (captures.map fun capture => capture.var.name).Nodup) (name : Text) :
    (binder.boundValues name captures).length ≤ 1 := by
  induction captures with
  | nil => exact Nat.zero_le _
  | cons capture captures ih =>
    rw [List.map_cons, List.nodup_cons] at hnames
    rw [boundValues_cons]
    by_cases hname : capture.var.name = name
    · have hothers : binder.boundValues name captures = [] := by
        rw [boundValues, List.filterMap_eq_nil_iff]
        intro other hother
        refine if_neg fun hsame => hnames.1 ?_
        rw [hname, ← hsame]
        exact List.mem_map_of_mem hother
      rw [hothers, List.append_nil]
      exact Option.length_toList_le
    · rw [if_neg hname]
      exact ih hnames.2

/-- **Captures of distinct names are bound in any order.** -/
theorem get?_bindAll_perm (binder : Binder) {captures captures' : List Capture}
    (h : captures.Perm captures')
    (hnames : (captures.map fun capture => capture.var.name).Nodup) (bindings : Bindings)
    (name : Text) :
    (binder.bindAll captures bindings).get? name =
      (binder.bindAll captures' bindings).get? name := by
  have hperm : (binder.boundValues name captures).Perm (binder.boundValues name captures') :=
    h.filterMap _
  have hle := binder.length_boundValues_le hnames name
  rw [get?_bindAll, get?_bindAll]
  rcases hvalues : binder.boundValues name captures with _ | ⟨value, _ | ⟨value', values⟩⟩
  · rw [hvalues] at hperm
    rw [hperm.nil_eq]
  · rw [hvalues] at hperm
    rw [List.singleton_perm.1 hperm]
  · rw [hvalues] at hle
    exact absurd hle (by simp)

end Binder

/-! ## 2.  Written values -/

/-- The bound value of texts that are bound as they are: a list of one item counts as
the item. -/
def BoundValue.ofTexts (value : OneOrMany Text) : BoundValue :=
  .ofItems (value.items.map Scalar.text)

theorem OneOrMany.mapM?_ofItems {α β γ : Type} {f : α → Option β} {g : γ → α} {h : γ → β}
    (hfg : ∀ c, f (g c) = some (h c)) (l : List γ) :
    (OneOrMany.ofItems (l.map g)).mapM? f = some (.ofItems (l.map h)) := by
  have hlist : ∀ l : List γ, (l.map g).mapM f = some (l.map h) := by
    intro l
    induction l with
    | nil => rfl
    | cons c l ih => rw [List.map_cons, List.mapM_cons, hfg, ih]; rfl
  rcases l with _ | ⟨c, _ | ⟨d, l⟩⟩
  · rfl
  · exact congrArg (Option.map OneOrMany.one) (hfg c)
  · exact congrArg (Option.map OneOrMany.many) (hlist (c :: d :: l))

namespace Binder

/-- A text is bound to what it stands for, read as the tag of the variable says. -/
theorem bindCapture_of_decode (binder : Binder) {v : Variable} {raw s : Text}
    (h : Percent.decode raw = some s) :
    binder.bindCapture ⟨v, .one raw⟩ = (binder.bind v.kind s).map .one := by
  show (binder.bindRaw v.kind raw).map OneOrMany.one = _
  rw [bindRaw, h]
  rfl

/-- An untyped variable is bound to the value that was written for it. -/
theorem bindCapture_written (binder : Binder) {entry : Variable × OneOrMany Text}
    (hkind : entry.1.kind = none) :
    binder.bindCapture (Capture.written entry) = some (BoundValue.ofTexts entry.2) := by
  refine OneOrMany.mapM?_ofItems (fun item => ?_) entry.2.items
  have hdecode : Percent.decode (Percent.encode item) = some item := Percent.decode_encode item
  rw [Capture.written, bindRaw, hdecode, hkind]
  rfl

/-- The captures of one name among those of the variables that have a value. -/
theorem boundValues_written (binder : Binder) {vs : List Variable}
    (hkinds : ∀ v ∈ vs, v.kind = none) (params : Parameters) (name : Text) :
    binder.boundValues name ((params.defined vs).map Capture.written) =
      (vs.filter fun v => v.name = name).filterMap fun v =>
        (params.lookup v).map BoundValue.ofTexts := by
  induction vs with
  | nil => rfl
  | cons v vs ih =>
    obtain ⟨hkind, hkinds⟩ := List.forall_mem_cons.1 hkinds
    have hrest := ih hkinds
    cases hlookup : params.lookup v with
    | none =>
      have hdefined : params.defined (v :: vs) = params.defined vs := by
        rw [Parameters.defined, List.filterMap_cons, hlookup]
        rfl
      rw [hdefined, hrest, List.filter_cons]
      split
      · rw [List.filterMap_cons, hlookup, Option.map_none]
      · rfl
    | some value =>
      have hdefined : params.defined (v :: vs) = (v, value) :: params.defined vs := by
        rw [Parameters.defined, List.filterMap_cons, hlookup]
        rfl
      rw [hdefined, List.map_cons, boundValues_cons, hrest, List.filter_cons,
        show (Capture.written (v, value)).var = v from rfl]
      by_cases hname : v.name = name
      · rw [if_pos hname, if_pos (decide_eq_true hname), List.filterMap_cons, hlookup,
          binder.bindCapture_written hkind]
        rfl
      · rw [if_neg hname, if_neg (by simpa using hname)]
        rfl

/-- Of variables with distinct names, one alone has the name of a given one. -/
theorem filter_name_eq {vs : List Variable} (hnames : (vs.map Variable.name).Nodup)
    {v : Variable} (hv : v ∈ vs) : (vs.filter fun w => w.name = v.name) = [v] := by
  induction vs with
  | nil => exact absurd hv List.not_mem_nil
  | cons w vs ih =>
    rw [List.map_cons, List.nodup_cons] at hnames
    rcases List.mem_cons.1 hv with rfl | hmem
    · rw [List.filter_cons, if_pos (decide_eq_true rfl), List.filter_eq_nil_iff.2]
      intro w hw hname
      exact hnames.1 (List.mem_map.2 ⟨w, hw, of_decide_eq_true hname⟩)
    · have hne : w.name ≠ v.name := by
        intro hname
        exact hnames.1 (hname ▸ List.mem_map_of_mem hmem)
      rw [List.filter_cons, if_neg (by simpa using hne), ih hnames.2 hmem]

/-- **Written values are bound.**  When untyped variables have distinct names, each is
bound to its value, if it has one, and nothing else is bound. -/
theorem get?_bindAll_written (binder : Binder) {vs : List Variable}
    (hnames : (vs.map Variable.name).Nodup) (hkinds : ∀ v ∈ vs, v.kind = none)
    (params : Parameters) :
    (∀ v ∈ vs, (binder.bindAll ((params.defined vs).map Capture.written) Dict.empty).get? v.name =
      (params.lookup v).map BoundValue.ofTexts) ∧
      ∀ name, name ∉ vs.map Variable.name →
        (binder.bindAll ((params.defined vs).map Capture.written) Dict.empty).get? name = none := by
  refine ⟨fun v hv => ?_, fun name hname => ?_⟩
  · rw [get?_bindAll, boundValues_written binder hkinds, filter_name_eq hnames hv]
    cases hlookup : params.lookup v with
    | none => simp [hlookup]
    | some value => simp [hlookup]
  · have hfilter : (vs.filter fun v => v.name = name) = [] := by
      rw [List.filter_eq_nil_iff]
      intro v hv heq
      exact hname (List.mem_map.2 ⟨v, hv, of_decide_eq_true heq⟩)
    rw [get?_bindAll, boundValues_written binder hkinds, hfilter]
    rfl

end Binder
end UriRouting
