import CommandLine.Proofs.Bindings
import CommandLine.Proofs.JoinedArguments
import Mathlib.Data.List.Induction

/-!
# Decorations on top of each other

A routine can be decorated any number of times.  `resolved` says which reading a parameter has by looking
through the decorations from the last one back: once for positions, once for its name, once for a reading of
all parameters.

* `of_spec`               what has come together after all decorations is what the last ones say;
* `resolved_swap`         two decorations that do not contradict each other can change places in every stack;
* `agrees_of_swap`        and no others can;
* `decorations_resolved`  how a routine reads its arguments, and which decorations can change places.
-/

namespace CommandLine

/-! ## what one decoration says -/

/-- the readings by position -/
def Decoration.positions? : Decoration → Option (List Reading)
  | .one .. => none
  | .many ps _ => some ps

/-- the readings by name -/
def Decoration.entries : Decoration → List (String × Reading)
  | .one r names => names.map (·, r)
  | .many _ named => named

/-- the reading by this name -/
def Decoration.named? (p : String) (d : Decoration) : Option Reading := d.entries.reverse.lookup p

/-- the reading of all parameters, which a decoration without names sets -/
def Decoration.default? : Decoration → Option Reading
  | .one r [] => some r
  | _ => none

/-! ## what many decorations say -/

/-- what the last decoration says that says something -/
def lastSaid {α : Type} (f : Decoration → Option α) (ds : List Decoration) : Option α :=
  ds.reverse.findSome? f

/-- the reading of the parameter `name` at `index`: by position if the last readings by position have one,
else by name, else that of all parameters, else as a literal -/
def resolved (ds : List Decoration) (index : Option Nat) (name : Option String) : Reading :=
  let positional := index.bind fun i => (lastSaid Decoration.positions? ds).bind (·[i]?)
  let named := name.bind fun p => lastSaid (Decoration.named? p) ds
  ((positional.or named).or (lastSaid Decoration.default? ds)).getD .literal

theorem lastSaid_append {α : Type} (f : Decoration → Option α) (as bs : List Decoration) :
    lastSaid f (as ++ bs) = (lastSaid f bs).or (lastSaid f as) := by
  unfold lastSaid
  rw [List.reverse_append, List.findSome?_append]

theorem lastSaid_cons {α : Type} (f : Decoration → Option α) (d : Decoration) (ds : List Decoration) :
    lastSaid f (d :: ds) = (lastSaid f ds).or (f d) := by
  rw [← List.singleton_append, lastSaid_append]
  simp [lastSaid]

theorem lastSaid_nil {α : Type} (f : Decoration → Option α) : lastSaid f [] = none := rfl

theorem positional_decorate (rs : Readings) (d : Decoration) :
    (rs.decorate d).positional = d.positions?.getD rs.positional := by
  cases d with
  | one r names => cases names <;> rfl
  | many ps named => rfl

theorem default_decorate (rs : Readings) (d : Decoration) :
    (rs.decorate d).default = d.default?.or rs.default := by
  cases d with
  | one r names => cases names <;> rfl
  | many ps named => rfl

theorem named_decorate (rs : Readings) (d : Decoration) :
    (rs.decorate d).named = update rs.named d.entries := by
  cases d with
  | one r names => cases names <;> simp [Readings.decorate, Decoration.entries, update, List.foldl_map]
  | many ps named => rfl

/-- by induction from the last decoration on: each step is one of the three lemmas above -/
theorem of_spec (ds : List Decoration) :
    (Readings.of ds).positional = (lastSaid Decoration.positions? ds).getD [] ∧
    (∀ p, (Readings.of ds).named.lookup p = lastSaid (Decoration.named? p) ds) ∧
    (Readings.of ds).default = lastSaid Decoration.default? ds := by
  induction ds using List.reverseRecOn with
  | nil => exact ⟨rfl, fun p => rfl, rfl⟩
  | append_singleton ds d ih =>
    obtain ⟨hpositional, hnamed, hdefault⟩ := ih
    have hof : Readings.of (ds ++ [d]) = (Readings.of ds).decorate d := by
      simp [Readings.of]
    rw [hof]
    refine ⟨?_, fun p => ?_, ?_⟩
    · rw [positional_decorate, lastSaid_append, lastSaid_cons, lastSaid_nil, hpositional]
      cases d.positions? <;> rfl
    · rw [named_decorate, lookup_update, lastSaid_append, lastSaid_cons, lastSaid_nil, hnamed]
      rfl
    · rw [default_decorate, lastSaid_append, lastSaid_cons, lastSaid_nil, hdefault]
      rfl

theorem choose_of (ds : List Decoration) (index : Option Nat) (name : Option String) :
    (Readings.of ds).choose index name = resolved ds index name := by
  obtain ⟨hpositional, hnamed, hdefault⟩ := of_spec ds
  have hplace : (index.bind fun i => (Readings.of ds).positional[i]?) =
      index.bind fun i => (lastSaid Decoration.positions? ds).bind (·[i]?) := by
    rw [hpositional]
    cases lastSaid Decoration.positions? ds <;> simp
  unfold Readings.choose resolved
  simp only [hplace, hnamed, hdefault]
  cases index.bind fun i => (lastSaid Decoration.positions? ds).bind (·[i]?) with
  | some r => rfl
  | none => cases name.bind fun p => lastSaid (Decoration.named? p) ds <;> rfl

/-! ## decorations that change places -/

/-- two decorations do not say different things of the same -/
structure Decoration.Agrees (d e : Decoration) : Prop where
  positions : ∀ ps ∈ d.positions?, ∀ qs ∈ e.positions?, ps = qs
  named : ∀ p, ∀ r ∈ d.named? p, ∀ q ∈ e.named? p, r = q
  default : ∀ r ∈ d.default?, ∀ q ∈ e.default?, r = q

theorem or_comm_of_agree {α : Type} {a b : Option α} (h : ∀ x ∈ a, ∀ y ∈ b, x = y) :
    a.or b = b.or a := by
  cases a <;> cases b <;> simp_all

theorem lastSaid_swap {α : Type} {f : Decoration → Option α} {d e : Decoration}
    (h : ∀ x ∈ f d, ∀ y ∈ f e, x = y) (front behind : List Decoration) :
    lastSaid f (front ++ d :: e :: behind) = lastSaid f (front ++ e :: d :: behind) := by
  rw [lastSaid_append, lastSaid_append]
  simp only [lastSaid_cons, Option.or_assoc, or_comm_of_agree h]

theorem resolved_swap {d e : Decoration} (h : d.Agrees e) (front behind : List Decoration) :
    resolved (front ++ d :: e :: behind) = resolved (front ++ e :: d :: behind) := by
  funext index name
  have hnamed := fun p => lastSaid_swap (h.named p) front behind
  simp only [resolved, lastSaid_swap h.positions, lastSaid_swap h.default, hnamed]

theorem eq_of_getD {α : Type} {a b : Option α} {x y : α} (hne : x ≠ y) (hx : a.getD x = b.getD x)
    (hy : a.getD y = b.getD y) : a = b := by
  cases a <;> cases b <;> simp_all

/-- if they can change places, they agree: a name and no name show the other readings, a position shows
itself above a reading of all parameters that tells where there is none -/
theorem agrees_of_swap {d e : Decoration}
    (h : ∀ front, resolved (front ++ [d, e]) = resolved (front ++ [e, d])) : d.Agrees e where
  positions := by
    intro ps hps qs hqs
    refine List.ext_getElem? fun i => ?_
    have hplace : ∀ r, (qs[i]?).getD r = (ps[i]?).getD r := by
      intro r
      have hat := congrFun (congrFun (h [.one r []]) (some i)) none
      cases d <;> cases e <;> cases hps <;> cases hqs
      simpa [resolved, lastSaid_cons, lastSaid_nil, Decoration.positions?, Decoration.default?]
        using hat
    exact (eq_of_getD (by decide) (hplace .text) (hplace .int)).symm
  named := by
    intro p r hr q hq
    have hat := congrFun (congrFun (h []) none) (some p)
    rw [Option.mem_def] at hr hq
    simpa [resolved, lastSaid_cons, lastSaid_nil, hr, hq] using hat.symm
  default := by
    intro r hr q hq
    have hat := congrFun (congrFun (h []) none) none
    rw [Option.mem_def] at hr hq
    simpa [resolved, lastSaid_cons, lastSaid_nil, hr, hq] using hat.symm

/-! ## reading arguments -/

namespace Binding

theorem readFor_ofDecorations (positional : Bool) (ds : List Decoration) (index : Option Nat)
    (name : Option String) (s : String) :
    readFor (.ofDecorations positional ds) index name s =
      ((resolved ds index name).read s).mapError BindError.reading := by
  have hreadings : (Metadata.ofDecorations positional ds).readings = Readings.of ds := rfl
  unfold readFor
  rw [hreadings, choose_of]
  cases (resolved ds index name).read s <;> rfl

section
variable {m m' : Metadata}

/-- binding hangs on the readings alone, not on how they came together -/
theorem bindWith_congr (hpositional : m.positional = m'.positional)
    (hread : ∀ index name s, readFor m index name s = readFor m' index name s)
    (spec : Signature Value) (args : List String) : bindWith spec m args = bindWith spec m' args := by
  have hfill : ∀ defaults required named index ps single,
      fill m defaults required named index ps single = fill m' defaults required named index ps single := by
    intro defaults required named index ps
    induction ps generalizing index with
    | nil => intro single; rfl
    | cons p ps ih =>
      intro single
      rw [fill.eq_def, fill.eq_def m']
      simp only [hread, hpositional, ih]
  have hnamed : ∀ es, readNamed m es = readNamed m' es := by
    intro es
    induction es with
    | nil => rfl
    | cons e es ih => simp only [readNamed, hread, ih]
  have hextra : ∀ ss, readExtra m ss = readExtra m' ss := by
    intro ss
    induction ss with
    | nil => rfl
    | cons s ss ih => simp only [readExtra, hread, ih]
  simp only [bindWith, hfill, hnamed, hextra]

end

end Binding

open Binding in
/-- **Stacked decorations.**  A routine, called by itself or as a method, reads an argument as the last
readings by position say, else as the last decoration that names the parameter, else as the last without
names, else as a literal; an argument without a position, or without a name, goes past that case.  Two
decorations can change places in every stack exactly if they do not contradict each other, and then every
binding stays the same. -/
theorem decorations_resolved (r : Routine) (v : Value) :
    (∀ c ∈ [Value.routine r, .method v r], ∀ index name s,
      readFor c.metadata index name s = ((resolved r.decorations index name).read s).mapError BindError.reading) ∧
    ∀ d e : Decoration,
      (d.Agrees e ↔ ∀ front behind,
        resolved (front ++ d :: e :: behind) = resolved (front ++ e :: d :: behind)) ∧
      (d.Agrees e → ∀ front behind, ∀ form ∈ [Value.routine, .method v], ∀ args,
        (form { r with decorations := front ++ d :: e :: behind }).bind args =
          (form { r with decorations := front ++ e :: d :: behind }).bind args) := by
  refine ⟨?_, fun d e => ⟨⟨resolved_swap, fun h => agrees_of_swap fun front => h front []⟩, ?_⟩⟩
  · intro c hc index name s
    have hmeta : c.metadata = .ofDecorations true r.decorations := by
      rcases List.mem_cons.1 hc with rfl | hc
      · rfl
      · rw [List.mem_singleton.1 hc]
        rfl
    rw [hmeta, readFor_ofDecorations]
  · intro h front behind form hform args
    have hread : ∀ index name s,
        readFor (.ofDecorations true (front ++ d :: e :: behind)) index name s =
          readFor (.ofDecorations true (front ++ e :: d :: behind)) index name s := by
      intro index name s
      rw [readFor_ofDecorations, readFor_ofDecorations, resolved_swap h]
    have hpositional : (Metadata.ofDecorations true (front ++ d :: e :: behind)).positional =
        (Metadata.ofDecorations true (front ++ e :: d :: behind)).positional := rfl
    rcases List.mem_cons.1 hform with rfl | hform
    · exact bindWith_congr hpositional hread _ args
    · rw [List.mem_singleton.1 hform]
      exact bindWith_congr hpositional hread _ args

def sampleDecorated (ds : List Decoration) : Routine :=
  { oneParam with decorations := .many [.int] [("b", .float)] :: ds }

open Binding in
/-- a decoration of all parameters and one of `b` change places; `a` is read by position and `b` by the later
of its two readings -/
theorem decorations_resolved_sample :
    let ds := [.one .upper [], .one .text ["b"]]
    (Decoration.one .upper []).Agrees (.one .text ["b"]) ∧
    readFor (Value.routine (sampleDecorated ds)).metadata (some 0) (some "a") "7" = .ok (.int 7) ∧
    resolved (sampleDecorated ds).decorations none (some "b") = .text ∧
    resolved (sampleDecorated ds).decorations none none = .upper ∧
    ∀ args, (Value.routine (sampleDecorated ds)).bind args =
      (Value.routine (sampleDecorated ds.reverse)).bind args := by
  intro ds
  have hagrees : (Decoration.one .upper []).Agrees (.one .text ["b"]) := by
    constructor
    · rintro ps ⟨⟩
    · rintro p r ⟨⟩
    · rintro r hr q ⟨⟩
  have hall := decorations_resolved (sampleDecorated ds) .null
  refine ⟨hagrees, ?_, by decide, by decide, fun args => ?_⟩
  · rw [hall.1 _ List.mem_cons_self]
    rfl
  · exact (hall.2 _ _).2 hagrees [.many [.int] [("b", .float)]] [] _ List.mem_cons_self args

end CommandLine
