import Mathlib.Data.List.Nodup
import Mathlib.Data.List.Sort

namespace StellarSwipe

/-- JavaScript's `StrWhiteSpaceChar`, which `trim`, `parseInt`, `parseFloat` and the regular
expression `\s` skip: the WhiteSpace code points (tab, vertical tab, form feed, the byte order
mark and Unicode's space separators) and the LineTerminator ones. -/
def isJsWhitespace (c : Char) : Bool :=
  c.toNat ∈ [0x09, 0x0A, 0x0B, 0x0C, 0x0D, 0x20, 0xA0, 0x1680, 0x2028, 0x2029, 0x202F, 0x205F, 0x3000, 0xFEFF] ||
    (0x2000 ≤ c.toNat && c.toNat ≤ 0x200A)

theorem isJsWhitespace_of_isDigit {c : Char} (h : c.isDigit = true) : isJsWhitespace c = false := by
  simp only [Char.isDigit, Bool.and_eq_true, decide_eq_true_eq] at h
  have hd : 48 ≤ c.toNat ∧ c.toNat ≤ 57 := h
  simp only [isJsWhitespace, List.mem_cons, List.mem_singleton, List.not_mem_nil, or_false, Bool.or_eq_false_iff,
    decide_eq_false_iff_not, Bool.and_eq_false_imp, decide_eq_true_eq]
  omega

def hexDigit? (c : Char) : Option Nat :=
  if '0' ≤ c ∧ c ≤ '9' then some (c.toNat - '0'.toNat)
  else if 'a' ≤ c ∧ c ≤ 'f' then some (c.toNat - 'a'.toNat + 10)
  else if 'A' ≤ c ∧ c ≤ 'F' then some (c.toNat - 'A'.toNat + 10)
  else none

/-- `Buffer.from(s, 'hex')`: pairs of hex digits, up to the first pair that is not one. -/
def hexDecode : List Char → List UInt8
  | a :: b :: rest =>
    match hexDigit? a, hexDigit? b with
    | some x, some y => UInt8.ofNat (16 * x + y) :: hexDecode rest
    | _, _ => []
  | _ => []

def hexChar (n : Nat) : Char :=
  if n < 10 then Char.ofNat ('0'.toNat + n) else Char.ofNat ('a'.toNat + n - 10)

/-- `digest('hex')` and `buf.toString('hex')`: two lowercase hex digits per byte. -/
def hexEncode (bytes : List UInt8) : List Char :=
  bytes.flatMap fun b => [hexChar (b.toNat / 16), hexChar (b.toNat % 16)]

/-- An assignment under a string key to a `Map`, or to a plain object for a key that is not an
array index: the entry under the key is updated in place, and a new key comes last. -/
def upsert {β : Type} (keyOf : β → String) (entries : List β) (k : String) (update : β → β)
    (create : β) : List β :=
  if entries.any (keyOf · == k) then entries.map fun e => if keyOf e = k then update e else e
  else entries ++ [create]

/-- `record[key] = v` on a plain object. -/
def recordSet {β : Type} (record : List (String × β)) (key : String) (v : β) : List (String × β) :=
  upsert Prod.fst record key (fun _ => (key, v)) (key, v)

/-- `acc[key] = (acc[key] || 0) + v` on a plain object, for a key that is an own property of
`acc` or of no object in its prototype chain. -/
def recordAdd {β : Type} [Add β] (acc : List (String × β)) (key : String) (v : β) : List (String × β) :=
  upsert Prod.fst acc key (fun e => (e.1, e.2 + v)) (key, v)

/-- The properties of `Object.prototype`, which `acc[key]` on a plain object reads when `key`
is not an own property of `acc`. -/
def objectPrototypeKeys : List String :=
  ["constructor", "__proto__", "__defineGetter__", "__defineSetter__", "__lookupGetter__",
    "__lookupSetter__", "hasOwnProperty", "isPrototypeOf", "propertyIsEnumerable", "toLocaleString",
    "toString", "valueOf"]

section
variable {β : Type} {keyOf : β → String} {entries : List β} {k : String} {update : β → β} {create : β}

end

/-- What `sort(...).slice(0, k)` leaves out ranks after everything it keeps. -/
theorem rel_of_not_mem_take {α : Type} {r : α → α → Prop} {l : List α} (h : l.Pairwise r) (k : Nat)
    {a b : α} (ha : a ∈ l) (hna : a ∉ l.take k) (hb : b ∈ l.take k) : r b a := by
  have hin : a ∈ l.take k ++ l.drop k := by rw [List.take_append_drop]; exact ha
  exact List.Sorted.rel_of_mem_take_of_mem_drop h hb ((List.mem_append.1 hin).resolve_left hna)

section Grouping
variable {α β : Type} (keyOf : β → String) (key : α → String) (update : α → β → β) (create : α → β)
  (F : List α → String → β) (hkey : ∀ xs k, keyOf (F xs k) = k)
  (hstep : ∀ xs x k, F (xs ++ [x]) k = if key x = k then update x (F xs k) else F xs k)
  (hcreate : ∀ xs x, (∀ y ∈ xs, key y ≠ key x) → update x (F xs (key x)) = create x)
include hkey hstep hcreate

theorem upsert_closedForm {xs : List α} {ks : List String} (hmem : ∀ k, k ∈ ks ↔ ∃ y ∈ xs, key y = k)
    (x : α) : upsert keyOf (ks.map (F xs)) (key x) (update x) (create x) =
      (if key x ∈ ks then ks else ks ++ [key x]).map (F (xs ++ [x])) := by
  have hany : (ks.map (F xs)).any (keyOf · == key x) = decide (key x ∈ ks) := by
    rw [Bool.eq_iff_iff]
    simp [hkey]
  unfold upsert
  rw [hany]
  by_cases h : key x ∈ ks
  · rw [if_pos (decide_eq_true h), if_pos h, List.map_map]
    refine List.map_congr_left fun k _ => ?_
    simp only [Function.comp_apply, hkey, hstep, eq_comm]
  · have hnew : ∀ y ∈ xs, key y ≠ key x := fun y hy he => h ((hmem _).2 ⟨y, hy, he⟩)
    rw [if_neg (by simpa using h), if_neg h, List.map_append, List.map_singleton, hstep, if_pos rfl,
      hcreate xs x hnew]
    congr 1
    refine List.map_congr_left fun k hk => ?_
    rw [hstep, if_neg fun (he : key x = k) => h (he ▸ hk)]

/-- A loop of upserts, a group-by over a `Record` or a `Map`, holds one entry per key in the
order of the keys' first items, each the closed form over the items. -/
theorem foldl_upsert (xs : List α) :
    ∃ ks : List String, ks.Nodup ∧ (∀ k, k ∈ ks ↔ ∃ x ∈ xs, key x = k) ∧
      xs.foldl (fun acc x => upsert keyOf acc (key x) (update x) (create x)) [] = ks.map (F xs) := by
  induction xs using List.reverseRecOn with
  | nil => exact ⟨[], List.nodup_nil, by simp, rfl⟩
  | append_singleton xs x ih =>
    obtain ⟨ks, hnd, hmem, heq⟩ := ih
    refine ⟨if key x ∈ ks then ks else ks ++ [key x], ?_, fun k => ?_, ?_⟩
    · split_ifs with h
      · exact hnd
      · exact hnd.append (List.nodup_singleton _) (List.disjoint_singleton.2 h)
    · have hext : (∃ y ∈ xs ++ [x], key y = k) ↔ k ∈ ks ∨ key x = k := by
        rw [hmem k]
        simp [or_and_right, exists_or]
      rw [hext]
      split_ifs with h
      · exact ⟨Or.inl, fun h' => h'.elim id fun (he : key x = k) => he ▸ h⟩
      · simp [eq_comm]
    · rw [List.foldl_append, heq, List.foldl_cons, List.foldl_nil,
        upsert_closedForm keyOf key update create F hkey hstep hcreate hmem]

end Grouping

end StellarSwipe
