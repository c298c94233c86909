import Mathlib.Algebra.Group.Nat.Defs
import Mathlib.Data.List.Perm.Subperm
import Mathlib.Tactic.Common
/-!
# Collections — ordered maps and text, as the source's standard library has them

`BTreeMap` is the extensional ordered map: two maps with the same entries are equal, and iteration is in key order.
-/
namespace AttackSharkX3

open Std (TransOrd LawfulEqOrd)

/-- **An ordered map**, iterated in the order of its keys. -/
abbrev BTreeMap (K V : Type) [Ord K] := Std.ExtTreeMap K V compare

/-- The order of the keys `f` reads off. -/
abbrev ordOn {α β : Type} [Ord β] (f : α → β) : Ord α := ⟨fun a b => compare (f a) (f b)⟩

theorem transOrdOn {α β : Type} [Ord β] [TransOrd β] (f : α → β) : @TransOrd α (ordOn f) :=
  letI := ordOn f
  { eq_swap := fun {a b} => Std.OrientedOrd.eq_swap (α := β) (a := f a) (b := f b)
    isLE_trans := fun {a b c} h h' => Std.TransOrd.isLE_trans (α := β) (a := f a) (b := f b) (c := f c) h h' }

theorem lawfulEqOrdOn {α β : Type} [Ord β] [LawfulEqOrd β] (f : α → β) (hf : ∀ a b, f a = f b → a = b) :
    @LawfulEqOrd α (ordOn f) :=
  letI := ordOn f
  { compare_self := fun {a} => Std.ReflOrd.compare_self (α := β) (a := f a)
    eq_of_compare := fun {a b} h => hf a b (Std.LawfulEqOrd.eq_of_compare h) }

/-- Unicode `White_Space`, as `char::is_whitespace` reads it. -/
def isWhitespace (c : Char) : Bool :=
  let n := c.toNat
  (9 ≤ n && n ≤ 13) || n == 0x20 || n == 0x85 || n == 0xa0 || n == 0x1680 || (0x2000 ≤ n && n ≤ 0x200a) ||
    n == 0x2028 || n == 0x2029 || n == 0x202f || n == 0x205f || n == 0x3000

def trim (s : String) : String :=
  String.ofList ((s.toList.dropWhile isWhitespace).reverse.dropWhile isWhitespace).reverse

/-- Nothing is left of the text once trimmed. -/
def isBlank (s : String) : Bool := s.toList.all isWhitespace

/-- Control characters, which `{:?}` writes by their code. -/
def isControl (c : Char) : Bool := c.toNat < 0x20 ∨ (0x7f ≤ c.toNat ∧ c.toNat < 0xa0)

/-- The escapes of `{:?}` for quotes, backslashes and control characters.  The other characters that are not printable, and
those that extend the one before, it writes by their code as well; here they stand as they are. -/
def escapeDebug (c : Char) : List Char :=
  if c = '\\' then ['\\', '\\'] else if c = '"' then ['\\', '"'] else if c = '\n' then ['\\', 'n']
  else if c = '\r' then ['\\', 'r'] else if c = '\t' then ['\\', 't'] else if c.toNat = 0 then ['\\', '0']
  else if isControl c then ['\\', 'u', '\x7b'] ++ Nat.toDigits 16 c.toNat ++ ['\x7d'] else [c]

/-- A text in quotes, as `{:?}` writes it but for the characters that `escapeDebug` leaves. -/
def debugString (s : String) : String := "\"" ++ String.ofList (s.toList.flatMap escapeDebug) ++ "\""

namespace BTreeMap

variable {K V : Type} [Ord K] [TransOrd K] [LawfulEqOrd K]

/-- The values in key order. -/
def values (m : BTreeMap K V) : List V := m.toList.map (·.2)

@[simp] theorem get_insert_self (m : BTreeMap K V) (k : K) (v : V) : (m.insert k v)[k]? = some v := by simp

theorem get_insert_of_ne (m : BTreeMap K V) {k a : K} (h : k ≠ a) (v : V) : (m.insert k v)[a]? = m[a]? := by
  rw [Std.ExtTreeMap.getElem?_insert, if_neg]
  exact fun hc => h (Std.compare_eq_iff_eq.1 hc)

theorem mem_values {m : BTreeMap K V} {v : V} : v ∈ m.values ↔ ∃ k : K, m[k]? = some v := by
  simp [values]

theorem mem_keys_iff {m : BTreeMap K V} {k : K} : k ∈ m.keys ↔ ∃ v, m[k]? = some v := by
  rw [Std.ExtTreeMap.mem_keys, Std.ExtTreeMap.mem_iff_isSome_getElem?, Option.isSome_iff_exists]

/-- Different entries have different keys. -/
theorem distinct_toList (m : BTreeMap K V) : m.toList.Pairwise fun a b => a.1 ≠ b.1 :=
  Std.ExtTreeMap.distinct_keys_toList.imp fun h heq => h (Std.compare_eq_iff_eq.2 heq)

/-- **As many keys as another map has, each one of them**, are all of them. -/
theorem contains_eq {W : Type} {m : BTreeMap K V} {m' : BTreeMap K W} (hsize : m.size = m'.size)
    (hkeys : m.keys.all m'.contains = true) (k : K) : m.contains k = m'.contains k := by
  have hsubset : m.keys ⊆ m'.keys := by
    intro q hq
    have hq' := List.all_eq_true.1 hkeys q hq
    simpa using hq'
  have hperm := (List.subperm_of_subset Std.ExtTreeMap.nodup_keys hsubset).perm_of_length_le (by simp [hsize])
  have hmem : k ∈ m.keys ↔ k ∈ m'.keys := hperm.mem_iff
  rw [Bool.eq_iff_iff]
  simpa using hmem

section Fold

variable {E : Type} (key : E → K) (value : E → V)

theorem get_foldl_insert_of_ne : ∀ (entries : List E) (m : BTreeMap K V) {k : K}, (∀ e ∈ entries, key e ≠ k) →
    (entries.foldl (fun m e => m.insert (key e) (value e)) m)[k]? = m[k]?
  | [], _, _, _ => rfl
  | e :: entries, m, _, h => by
    rw [List.foldl_cons, get_foldl_insert_of_ne entries _ fun e he => h e (List.mem_cons_of_mem _ he)]
    exact get_insert_of_ne m (h e List.mem_cons_self) _

/-- What folded insertions hold was inserted, or was there before. -/
theorem of_get_foldl_insert : ∀ (entries : List E) (m : BTreeMap K V) {k : K} {v : V},
    (entries.foldl (fun m e => m.insert (key e) (value e)) m)[k]? = some v → (∃ e ∈ entries, value e = v) ∨ m[k]? = some v
  | [], _, _, _, h => .inr h
  | e :: entries, m, k, v, h => by
    rcases of_get_foldl_insert entries (m.insert (key e) (value e)) h with ⟨e', he', hv⟩ | hm
    · exact .inl ⟨e', List.mem_cons_of_mem _ he', hv⟩
    · by_cases heq : key e = k
      · subst heq
        exact .inl ⟨e, List.mem_cons_self .., by simpa using hm⟩
      · rw [get_insert_of_ne _ heq] at hm
        exact .inr hm

/-- Entries with different keys are all there. -/
theorem get_foldl_insert : ∀ (entries : List E) (m : BTreeMap K V), entries.Pairwise (fun a b => key a ≠ key b) →
    ∀ {e : E}, e ∈ entries → (entries.foldl (fun m e => m.insert (key e) (value e)) m)[key e]? = some (value e)
  | e :: entries, m, hd, e', he => by
    obtain ⟨hfirst, hrest⟩ := List.pairwise_cons.1 hd
    rw [List.foldl_cons]
    rcases List.mem_cons.1 he with rfl | he
    · rw [get_foldl_insert_of_ne key value entries _ fun e h heq => hfirst e h heq.symm]
      exact get_insert_self ..
    · exact get_foldl_insert entries _ hrest he

end Fold

end BTreeMap
end AttackSharkX3
