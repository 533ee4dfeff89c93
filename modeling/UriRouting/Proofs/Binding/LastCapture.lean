import Mathlib.Data.List.Basic
import Mathlib.Data.List.Forall2
import UriRouting.Proofs.Binding.Resolution
import UriRouting.Proofs.Pattern.Layout

/-!
# Which capture a name is bound to

A pattern may capture a name several times, under different type tags, and some of the
captures cannot be bound: an escape does not decode, or the resolver of the tag rejects
the text.  The last capture of the name that can be bound counts, and a name of which no
capture can be bound is left out.

## The dictionary

The values that are bound are of any type, lists among them.  An `AnyBinder` has resolvers
for some tags, and a value for text that no resolver reads.  `Binder.toAny` is a binder of
scalars among them, and `Pattern.resolve_toAny` says that resolving by it is resolving.

`AnyBinder.Reads` and `AnyBinder.Binds` say what one captured text and what one capture
is bound to, without reference to the functions that compute it.  `AnyBinder.LastBinds`
says what a list of captures binds a name to.
-/

namespace UriRouting

variable {α : Type}

/-! ## 1.  Values of any type -/

/-- The resolvers of the type tags that are known, and of the text that has none. -/
structure AnyBinder (α : Type) where
  /-- The value of text that no resolver reads. -/
  ofText : Text → α
  /-- The resolver of a tag. -/
  get? : Text → Option (AnyResolver α)

/-- Whether a pattern matched, and what its variables are bound to. -/
structure AnyResolution (α : Type) where
  /-- Whether the pattern matched. -/
  isResolved : Bool
  /-- The values of variables, by name. -/
  bindings : Dict Text (OneOrMany α)

namespace AnyBinder

/-- The value of a decoded text for a variable with the given tag: a text is read only if
it is accepted first. -/
def bind (binder : AnyBinder α) (kind : Option Text) (t : Text) : Option α :=
  match kind.bind binder.get? with
  | some resolver => resolver.read? t
  | none => some (binder.ofText t)

/-- The value of one captured text. -/
def bindRaw (binder : AnyBinder α) (kind : Option Text) (raw : Text) : Option α :=
  (Percent.decode raw).bind (binder.bind kind)

/-- The value of a capture. -/
def bindCapture (binder : AnyBinder α) (capture : Capture) : Option (OneOrMany α) :=
  capture.raw.mapM? (binder.bindRaw capture.var.kind)

/-- The bindings of a list of captures. -/
def bindAll (binder : AnyBinder α) (captures : List Capture) : Dict Text (OneOrMany α) :=
  captures.foldl (fun bindings capture =>
    bindings.insert? capture.var.name (binder.bindCapture capture)) Dict.empty

end AnyBinder

/-- The outcome of resolving a URI against a pattern, with values of any type. -/
def Pattern.resolveBy (p : Pattern) (binder : AnyBinder α) (uri : Text) : AnyResolution α :=
  match p.match? uri with
  | none => ⟨false, Dict.empty⟩
  | some m => ⟨true, binder.bindAll m.captures⟩

/-- A binder of scalars among those of any values. -/
def Binder.toAny (binder : Binder) : AnyBinder Scalar where
  ofText := .text
  get? := binder.get?

/-- An outcome with scalars among those with any values. -/
def Resolution.toAny (r : Resolution) : AnyResolution Scalar := ⟨r.isResolved, r.bindings⟩

theorem Binder.bind_toAny (binder : Binder) : binder.toAny.bind = binder.bind := by
  funext kind t
  have hresolver : kind.bind binder.toAny.get? = binder.resolver? kind := rfl
  rw [AnyBinder.bind, Binder.bind, hresolver]
  cases binder.resolver? kind <;> rfl

theorem Binder.bindAll_toAny (binder : Binder) (captures : List Capture) :
    binder.toAny.bindAll captures = binder.bindAll captures Dict.empty := by
  have hraw : binder.toAny.bindRaw = binder.bindRaw := by
    funext kind raw
    rw [AnyBinder.bindRaw, binder.bind_toAny]
    rfl
  have hcapture : binder.toAny.bindCapture = binder.bindCapture := by
    funext capture
    rw [AnyBinder.bindCapture, hraw, Binder.bindCapture]
  rw [AnyBinder.bindAll, hcapture, bindAll_eq_foldl]

/-- **Resolving binds scalars as it would bind any values.** -/
theorem Pattern.resolve_toAny (p : Pattern) (binder : Binder) (uri : Text) :
    (p.resolve binder uri).toAny = p.resolveBy binder.toAny uri := by
  unfold Pattern.resolve Pattern.resolveBy
  cases p.match? uri with
  | none => rfl
  | some m => exact congrArg (AnyResolution.mk true) (binder.bindAll_toAny m.captures).symm

/-! ## 2.  What one capture is bound to -/

/-- The last value of a list is that of the last item that has one. -/
theorem getLast?_filterMap_eq_some_iff {β γ : Type} {f : β → Option γ} {l : List β} {c : γ} :
    (l.filterMap f).getLast? = some c ↔
      ∃ before b after, l = before ++ b :: after ∧ f b = some c ∧
        ∀ later ∈ after, f later = none := by
  -- It is the first value of the reversed list.
  rw [List.getLast?_filterMap, List.findSome?_eq_some_iff]
  constructor
  · rintro ⟨after, b, before, hl, hb, hafter⟩
    refine ⟨before.reverse, b, after.reverse, ?_, hb, ?_⟩
    · rw [← List.reverse_reverse l, hl]
      simp
    · simpa using hafter
  · rintro ⟨before, b, after, rfl, hb, hafter⟩
    refine ⟨after.reverse, b, before.reverse, ?_, hb, ?_⟩
    · simp
    · simpa using hafter

/-- A map over a list succeeds when it succeeds at every item. -/
theorem mapM_eq_some_iff {β γ : Type} {f : β → Option γ} {l : List β} {l' : List γ} :
    l.mapM f = some l' ↔ List.Forall₂ (fun b c => f b = some c) l l' := by
  induction l generalizing l' with
  | nil => simp [eq_comm]
  | cons b l ih =>
    rw [List.mapM_cons]
    cases l' with
    | nil => simp [Option.bind_eq_some_iff]
    | cons c l' => simp [Option.bind_eq_some_iff, List.forall₂_cons, ih]

namespace AnyBinder

/-- What one captured text is bound to, for a variable with the given tag: it decodes, and
the resolver of the tag, if there is one, accepts it and reads it. -/
inductive Reads (binder : AnyBinder α) (kind : Option Text) (raw : Text) : α → Prop
  /-- Text without a tag, or with a tag that is not known, is bound as it is. -/
  | asText {t : Text} (decodes : Percent.decode raw = some t)
      (unknown : ∀ tag, kind = some tag → binder.get? tag = none) :
      Reads binder kind raw (binder.ofText t)
  /-- Other text is bound to what the resolver of the tag makes of it. -/
  | resolved {t tag : Text} {resolver : AnyResolver α} {value : α}
      (decodes : Percent.decode raw = some t) (tagged : kind = some tag)
      (known : binder.get? tag = some resolver) (accepts : resolver.accepts t = true)
      (reads : resolver.resolve t = some value) :
      Reads binder kind raw value

/-- What a capture is bound to: of a list, every item is read. -/
inductive Binds (binder : AnyBinder α) (kind : Option Text) :
    OneOrMany Text → OneOrMany α → Prop
  /-- A single text. -/
  | one {raw : Text} {value : α} (reads : binder.Reads kind raw value) :
      Binds binder kind (.one raw) (.one value)
  /-- A list, item by item and in order. -/
  | many {raws : List Text} {values : List α}
      (reads : List.Forall₂ (binder.Reads kind) raws values) :
      Binds binder kind (.many raws) (.many values)

/-- What a list of captures binds a name to: the last capture of the name that can be
bound decides. -/
def LastBinds (binder : AnyBinder α) (captures : List Capture) (name : Text)
    (value : OneOrMany α) : Prop :=
  ∃ before capture after, captures = before ++ capture :: after ∧
    capture.var.name = name ∧ binder.Binds capture.var.kind capture.raw value ∧
    ∀ later ∈ after, later.var.name = name →
      ∀ value, ¬ binder.Binds later.var.kind later.raw value

variable {binder : AnyBinder α} {kind : Option Text}

theorem bindRaw_eq_some_iff {raw : Text} {value : α} :
    binder.bindRaw kind raw = some value ↔ binder.Reads kind raw value := by
  constructor
  · intro h
    obtain ⟨t, hdecode, hbind⟩ := Option.bind_eq_some_iff.1 h
    unfold bind at hbind
    split at hbind
    next resolver hresolver =>
      obtain ⟨tag, hkind, hget⟩ := Option.bind_eq_some_iff.1 hresolver
      obtain ⟨haccepts, hresolve⟩ := Option.ite_none_right_eq_some.1 hbind
      exact .resolved hdecode hkind hget haccepts hresolve
    next hresolver =>
      cases hbind
      refine .asText hdecode fun tag hkind => ?_
      rw [hkind] at hresolver
      exact hresolver
  · intro h
    unfold bindRaw bind
    cases h with
    | asText hdecode hunknown =>
      rw [hdecode, Option.bind_some]
      cases kind with
      | none => rfl
      | some tag => rw [Option.bind_some, hunknown tag rfl]
    | resolved hdecode hkind hget haccepts hresolve =>
      rw [hdecode, hkind, Option.bind_some, Option.bind_some, hget, ← hresolve]
      exact if_pos haccepts

theorem bindCapture_eq_some_iff {capture : Capture} {value : OneOrMany α} :
    binder.bindCapture capture = some value ↔
      binder.Binds capture.var.kind capture.raw value := by
  obtain ⟨v, raw⟩ := capture
  show raw.mapM? (binder.bindRaw v.kind) = some value ↔ _
  cases raw with
  | one raw =>
    rw [OneOrMany.mapM?, Option.map_eq_some_iff]
    simp only [bindRaw_eq_some_iff]
    constructor
    · rintro ⟨value, hreads, rfl⟩
      exact .one hreads
    · rintro ⟨hreads⟩
      exact ⟨_, hreads, rfl⟩
  | many raws =>
    rw [OneOrMany.mapM?, Option.map_eq_some_iff]
    simp only [mapM_eq_some_iff, bindRaw_eq_some_iff]
    constructor
    · rintro ⟨values, hreads, rfl⟩
      exact .many hreads
    · rintro (_ | ⟨hreads⟩)
      exact ⟨_, hreads, rfl⟩

theorem bindCapture_eq_none_iff {capture : Capture} :
    binder.bindCapture capture = none ↔
      ∀ value, ¬ binder.Binds capture.var.kind capture.raw value := by
  simp only [Option.eq_none_iff_forall_ne_some, ne_eq, bindCapture_eq_some_iff]

/-! ## 3.  The last capture -/

theorem get?_bindAll (binder : AnyBinder α) (captures : List Capture) (name : Text) :
    (binder.bindAll captures).get? name =
      (captures.filterMap fun capture =>
        if capture.var.name = name then binder.bindCapture capture else none).getLast? := by
  rw [bindAll, Dict.get?_foldl_insert?, Dict.get?_empty, Option.or_none]

/-- A name is bound by the last of its captures that can be bound. -/
theorem get?_bindAll_eq_some_iff {captures : List Capture} {name : Text} {value : OneOrMany α} :
    (binder.bindAll captures).get? name = some value ↔
      binder.LastBinds captures name value := by
  rw [get?_bindAll, getLast?_filterMap_eq_some_iff]
  simp only [Option.ite_none_right_eq_some, ite_eq_right_iff, bindCapture_eq_some_iff,
    bindCapture_eq_none_iff, and_assoc]
  rfl

/-- A name is left out when none of its captures can be bound. -/
theorem get?_bindAll_eq_none_iff {captures : List Capture} {name : Text} :
    (binder.bindAll captures).get? name = none ↔
      ∀ capture ∈ captures, capture.var.name = name →
        ∀ value, ¬ binder.Binds capture.var.kind capture.raw value := by
  rw [get?_bindAll, List.getLast?_eq_none_iff, List.filterMap_eq_nil_iff]
  simp only [ite_eq_right_iff, bindCapture_eq_none_iff]

theorem exists_capture_of_mem_keys_bindAll {captures : List Capture} {name : Text}
    (h : name ∈ (binder.bindAll captures).keys) :
    ∃ capture ∈ captures, capture.var.name = name := by
  rw [← Dict.contains_iff_mem_keys, Dict.contains, Option.isSome_iff_exists] at h
  obtain ⟨value, hvalue⟩ := h
  obtain ⟨before, capture, after, rfl, hname, -⟩ := get?_bindAll_eq_some_iff.1 hvalue
  exact ⟨capture, by simp, hname⟩

end AnyBinder

namespace Pattern

theorem resolveBy_of_match? {p : Pattern} {uri : Text} {m : Match} (h : p.match? uri = some m)
    (binder : AnyBinder α) : p.resolveBy binder uri = ⟨true, binder.bindAll m.captures⟩ := by
  rw [resolveBy, h]

theorem resolveBy_of_match?_eq_none {p : Pattern} {uri : Text} (h : p.match? uri = none)
    (binder : AnyBinder α) : p.resolveBy binder uri = ⟨false, Dict.empty⟩ := by
  rw [resolveBy, h]

/-- Only variables of the pattern are bound. -/
theorem mem_variableNames_of_mem_keys {p : Pattern} {binder : AnyBinder α} {uri name : Text}
    (h : name ∈ (p.resolveBy binder uri).bindings.keys) : name ∈ p.variableNames := by
  cases hmatch : p.match? uri with
  | none =>
    rw [resolveBy_of_match?_eq_none hmatch] at h
    exact absurd h List.not_mem_nil
  | some m =>
    rw [resolveBy_of_match? hmatch] at h
    obtain ⟨capture, hcapture, rfl⟩ := AnyBinder.exists_capture_of_mem_keys_bindAll h
    exact List.mem_eraseDups.2 (List.mem_map_of_mem (var_mem_of_match? hmatch capture hcapture))

/-- **The last capture that can be bound counts.**  By whatever resolvers, a URI is
resolved exactly when the pattern matches it.  Each name then has the value of the last of
its captures that can be bound, and none when no capture of it can be; only variables of
the pattern are bound, and an unresolved URI binds nothing.  Resolving with a binder of
scalars is a case of it. -/
theorem resolveBy_spec (p : Pattern) (binder : AnyBinder α) (uri : Text) :
    ((p.resolveBy binder uri).isResolved = true ↔ ∃ m, p.match? uri = some m) ∧
    (∀ m, p.match? uri = some m → ∀ name,
      (∀ value, (p.resolveBy binder uri).bindings.get? name = some value ↔
        binder.LastBinds m.captures name value) ∧
      ((p.resolveBy binder uri).bindings.get? name = none ↔
        ∀ capture ∈ m.captures, capture.var.name = name →
          ∀ value, ¬ binder.Binds capture.var.kind capture.raw value)) ∧
    (∀ name ∈ (p.resolveBy binder uri).bindings.keys, name ∈ p.variableNames) ∧
    ((p.resolveBy binder uri).isResolved = false →
      (p.resolveBy binder uri).bindings = Dict.empty) ∧
    ∀ scalars : Binder, (p.resolve scalars uri).toAny = p.resolveBy scalars.toAny uri := by
  refine ⟨?_, ?_, fun name => mem_variableNames_of_mem_keys, ?_,
    fun scalars => p.resolve_toAny scalars uri⟩
  · cases hmatch : p.match? uri with
    | none => simp [resolveBy_of_match?_eq_none hmatch]
    | some m => simp [resolveBy_of_match? hmatch]
  · intro m hmatch name
    rw [resolveBy_of_match? hmatch]
    exact ⟨fun value => AnyBinder.get?_bindAll_eq_some_iff, AnyBinder.get?_bindAll_eq_none_iff⟩
  · intro hresolved
    cases hmatch : p.match? uri with
    | none => rw [resolveBy_of_match?_eq_none hmatch]
    | some m =>
      rw [resolveBy_of_match? hmatch] at hresolved
      cases hresolved

/-- One item of the list does not decode, so the name keeps the number before it. -/
example :
    let x : Variable := ⟨['x'], none, some "int".toList⟩
    let p : Pattern := ⟨⟨"\x7bint:x\x7d/\x7bint:x\x7d\x7b?x\x7d".toList,
      [.var x, .literal ['/'], .var x,
        .operator ⟨.queryParameters, [⟨['x'], none, none⟩]⟩], by rfl⟩⟩
    (p.resolve Binder.standard "1/2?x=a,%FF".toList).get? ['x'] = some (.one (.integer 2)) := by
  decide +kernel

end Pattern
end UriRouting
