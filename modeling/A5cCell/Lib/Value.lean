import A5cCell.Lib.Str
import A5cCell.Lib.Dict

/-!
# Dynamically typed values

`Val` is what a Python program holds after `json.loads`, or reads out of a document store: the
scalars, lists and string-keyed dictionaries. Whatever else it may hold (a float, a `Decimal`, a
set, bytes) is `Val.obj`, kept as what `str`, `bool` and `int` answer for it, which is all a
program that only formats, tests and counts can see.

A dictionary is its items in insertion order. `get` answers the first item of a key; the values
a program meets have no second one.
-/

namespace Py

/-- What `int` answers for an object: a number, `ValueError`/`TypeError`, or `OverflowError`
    (an infinite float). -/
inductive IntCast where
  | ok (n : Int)
  | invalid
  | overflow
  deriving DecidableEq

/-- An object seen through `str`, `bool` and `int`. None of these shows as the empty text. -/
structure Obj where
  repr : String
  repr_ne : repr ≠ ""
  truthy : Bool
  toInt : IntCast
  deriving DecidableEq

inductive Val where
  | none
  | bool (b : Bool)
  | int (n : Int)
  | str (s : String)
  | list (xs : List Val)
  | dict (kvs : List (String × Val))
  | obj (o : Obj)
  deriving Inhabited

/-- The items of a dictionary, in insertion order. -/
abbrev Items := List (String × Val)

/-- `d.get(key, default)`. -/
def Items.get (d : Items) (key : String) (default : Val := .none) : Val :=
  (d.lookup key).getD default

/-- `key in d`. -/
def Items.has (d : Items) (key : String) : Bool := (d.lookup key).isSome

/-- `d[key] = v`. -/
def Items.set (d : Items) (key : String) (v : Val) : Items := setItem key v d

/-- `{**d, **e}`, and `d.update(e)`. -/
def Items.merge (d e : Items) : Items := e.foldl (fun acc kv => acc.set kv.1 kv.2) d

namespace Val

/-- `bool(v)`. -/
def truthy : Val → Bool
  | none => false
  | bool b => b
  | int n => n != 0
  | str s => s != ""
  | list xs => !xs.isEmpty
  | dict kvs => !kvs.isEmpty
  | obj o => o.truthy

/-- `v or w`. -/
def or (v w : Val) : Val := if v.truthy then v else w

/-- `isinstance(v, dict)`, with its items. -/
def asDict? : Val → Option Items
  | dict kvs => some kvs
  | _ => Option.none

@[simp] theorem asDict?_dict (kvs : Items) : (dict kvs).asDict? = some kvs := rfl

theorem asDict?_eq_some {v : Val} {kvs : Items} : v.asDict? = some kvs ↔ v = .dict kvs := by
  cases v <;> simp [asDict?]

def asList? : Val → Option (List Val)
  | list xs => some xs
  | _ => Option.none

@[simp] theorem asList?_list (xs : List Val) : (list xs).asList? = some xs := rfl

def asStr? : Val → Option String
  | str s => some s
  | _ => Option.none

def isNone : Val → Bool
  | none => true
  | _ => false

end Val

/-- One character of `repr` of a text quoted with `q`. -/
def reprChar (q c : Char) : List Char :=
  if c == '\\' then ['\\', '\\']
  else if c == q then ['\\', q]
  else if c == '\n' then ['\\', 'n']
  else if c == '\r' then ['\\', 'r']
  else if c == '\t' then ['\\', 't']
  else [c]

/-- `repr` of a text: single quotes, unless it has one and no double quote. -/
def reprStr (s : String) : String :=
  let q := if s.toList.contains '\'' && !s.toList.contains '"' then '"' else '\''
  String.ofList (q :: s.toList.flatMap (reprChar q) ++ [q])

mutual

/-- `repr(v)`, which is what `str` shows of a list's elements and a dictionary's items. -/
def Val.repr : Val → String
  | .none => "None"
  | .bool b => if b then "True" else "False"
  | .int n => toString n
  | .str s => reprStr s
  | .list xs => "[" ++ Val.reprList xs ++ "]"
  | .dict kvs => "\x7b" ++ Val.reprItems kvs ++ "\x7d"
  | .obj o => o.repr

def Val.reprList : List Val → String
  | [] => ""
  | [x] => x.repr
  | x :: y :: xs => x.repr ++ ", " ++ Val.reprList (y :: xs)

def Val.reprItems : List (String × Val) → String
  | [] => ""
  | [(k, x)] => reprStr k ++ ": " ++ x.repr
  | (k, x) :: y :: xs => reprStr k ++ ": " ++ x.repr ++ ", " ++ Val.reprItems (y :: xs)

end

mutual

/-- Every object in a value meets `p`. -/
def Val.allObjs (p : Obj → Bool) : Val → Bool
  | .list xs => Val.allObjsList p xs
  | .dict kvs => Val.allObjsItems p kvs
  | .obj o => p o
  | _ => true

def Val.allObjsList (p : Obj → Bool) : List Val → Bool
  | [] => true
  | x :: xs => x.allObjs p && Val.allObjsList p xs

def Val.allObjsItems (p : Obj → Bool) : List (String × Val) → Bool
  | [] => true
  | (_, x) :: kvs => x.allObjs p && Val.allObjsItems p kvs

end

/-- `str(v)`. -/
def Val.toStr : Val → String
  | .str s => s
  | v => v.repr

/-- `int(v)`. -/
def Val.toInt : Val → IntCast
  | .int n => .ok n
  | .bool b => .ok (if b then 1 else 0)
  | .str s => match toInt? s with
    | some n => .ok n
    | Option.none => .invalid
  | .obj o => o.toInt
  | _ => .invalid

/-- The text of a value, stripped, or `None` when it is absent or blank. -/
def Val.strOrNone (v : Val) : Option String :=
  match v with
  | .none => Option.none
  | v => let text := strip v.toStr
         if text = "" then Option.none else some text

/-- An optional text as a truth test reads it: the empty text counts as absent. -/
def truthyText (text : Option String) : Option String := text.filter (· ≠ "")

theorem truthyText_eq_some {text : Option String} {s : String} :
    truthyText text = some s ↔ text = some s ∧ s ≠ "" := by
  simp [truthyText, Option.filter_eq_some_iff]

/-- What is no `None` has the text it shows, where that is not blank. -/
theorem Val.strOrNone_eq {v : Val} (h : v ≠ .none) :
    v.strOrNone = truthyText (some (strip v.toStr)) := by
  have htext : v.strOrNone = if strip v.toStr = "" then Option.none else some (strip v.toStr) := by
    cases v with
    | none => exact absurd rfl h
    | _ => rfl
  rw [htext, truthyText, Option.filter_some]
  by_cases hblank : strip v.toStr = "" <;> simp [hblank]

/-! ## Dictionaries -/

@[simp] theorem Items.get_set_self (d : Items) (key : String) (v w : Val) :
    (d.set key v).get key w = v := by
  rw [Items.get, Items.set, lookup_setItem_self, Option.getD_some]

theorem Items.get_set_ne (d : Items) {key key' : String} (v w : Val) (h : key' ≠ key) :
    (d.set key v).get key' w = d.get key' w := by
  rw [Items.get, Items.set, lookup_setItem_ne v h, Items.get]

/-- What another dictionary does not have is kept. -/
theorem Items.lookup_merge_of_not_mem (d : Items) {e : Items} {key : String}
    (h : ∀ kv ∈ e, kv.1 ≠ key) : (d.merge e).lookup key = d.lookup key := by
  induction e generalizing d with
  | nil => rfl
  | cons kv e ih =>
    rw [List.forall_mem_cons] at h
    have hrest : (d.merge (kv :: e)).lookup key = ((d.set kv.1 kv.2).merge e).lookup key := rfl
    rw [hrest, ih _ h.2]
    exact lookup_setItem_ne kv.2 (Ne.symm h.1) d

/-- What is looked up of a merge is a matter of what was there under that key. -/
theorem Items.lookup_merge_congr {d d' : Items} (e : Items) {key : String}
    (h : d.lookup key = d'.lookup key) : (d.merge e).lookup key = (d'.merge e).lookup key := by
  induction e generalizing d d' with
  | nil => exact h
  | cons kv e ih =>
    have hrest (d : Items) : (d.merge (kv :: e)).lookup key = ((d.set kv.1 kv.2).merge e).lookup key :=
      rfl
    rw [hrest, hrest]
    apply ih
    by_cases hkey : key = kv.1
    · rw [hkey, Items.set, Items.set, lookup_setItem_self, lookup_setItem_self]
    · rw [Items.set, Items.set, lookup_setItem_ne _ hkey, lookup_setItem_ne _ hkey, h]

/-- What another dictionary has replaces what was there. -/
theorem Items.lookup_merge_of_mem (d : Items) {e : Items} (hnodup : (e.map Prod.fst).Nodup)
    {key : String} {v : Val} (h : (key, v) ∈ e) : (d.merge e).lookup key = some v := by
  induction e generalizing d with
  | nil => cases h
  | cons kv e ih =>
    rw [List.map_cons, List.nodup_cons] at hnodup
    have hrest : (d.merge (kv :: e)).lookup key = ((d.set kv.1 kv.2).merge e).lookup key := rfl
    rw [hrest]
    rcases List.mem_cons.mp h with rfl | hmem
    · rw [Items.lookup_merge_of_not_mem]
      · exact lookup_setItem_self key v d
      · intro kv hkv hname
        have hkey := List.mem_map_of_mem (f := Prod.fst) hkv
        rw [hname] at hkey
        exact hnodup.1 hkey
    · exact ih _ hnodup.2 hmem

/-- What a merge holds was in one of the two. -/
theorem Items.mem_merge {d e : Items} {kv : String × Val} (h : kv ∈ d.merge e) :
    kv ∈ d ∨ kv ∈ e := by
  induction e generalizing d with
  | nil => exact .inl h
  | cons kv' e ih =>
    have hrest : kv ∈ (d.set kv'.1 kv'.2).merge e := h
    rcases ih hrest with hset | he
    · rcases mem_setItem hset with rfl | hd
      · exact .inr List.mem_cons_self
      · exact .inl hd
    · exact .inr (List.mem_cons_of_mem _ he)

theorem Val.allObjsItems_iff {p : Obj → Bool} {kvs : List (String × Val)} :
    Val.allObjsItems p kvs = true ↔ ∀ kv ∈ kvs, kv.2.allObjs p = true := by
  induction kvs with
  | nil => simp [Val.allObjsItems]
  | cons kv kvs ih => simp [Val.allObjsItems, ih]

theorem Val.allObjsList_append {p : Obj → Bool} (xs ys : List Val) :
    Val.allObjsList p (xs ++ ys) = (Val.allObjsList p xs && Val.allObjsList p ys) := by
  induction xs with
  | nil => simp [Val.allObjsList]
  | cons x xs ih => simp [Val.allObjsList, ih, Bool.and_assoc]

theorem Val.allObjs_get {p : Obj → Bool} {d : Items} (h : ∀ kv ∈ d, kv.2.allObjs p = true)
    (key : String) : (d.get key).allObjs p = true := by
  unfold Items.get
  cases hlookup : d.lookup key with
  | none => rfl
  | some v =>
    obtain ⟨before, after, hsplit, -⟩ := List.lookup_eq_some_iff.mp hlookup
    exact h (key, v) (by rw [hsplit]; simp)

/-- What passes a truth test has a text. -/
theorem Val.toStr_ne_of_truthy {v : Val} (h : v.truthy = true) : v.toStr ≠ "" := by
  have hcons (c : Char) (s : String) (rest : String) : String.ofList [c] ++ s ++ rest ≠ "" := by
    intro hempty
    have hlist := congrArg String.toList hempty
    simp at hlist
  cases v with
  | none => exact absurd h (by decide)
  | bool b => cases b <;> decide
  | int n => simpa only [Val.toStr, Val.repr] using toString_ne_empty n
  | str s => simpa only [Val.toStr, Val.truthy, bne_iff_ne] using h
  | list xs => simpa only [Val.toStr, Val.repr] using hcons '[' _ _
  | dict kvs => simpa only [Val.toStr, Val.repr] using hcons '\x7b' _ _
  | obj o => exact o.repr_ne

@[simp] theorem Val.toStr_str (s : String) : (Val.str s).toStr = s := rfl

example : (Val.list [.int 1, .str "a'b", .none]).toStr = "[1, \"a'b\", None]" := by decide

end Py
