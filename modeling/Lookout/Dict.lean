/-!
# Dictionaries with sorted keys

A dictionary is a list of entries in strictly increasing order of their keys, so two dictionaries
that answer every look-up alike are equal. Keys are compared by code point, which is also the
order of their UTF-8 bytes.
-/
set_option autoImplicit false

namespace Lookout

namespace Entries

variable {α : Type}

def put (key : String) (value : α) : List (String × α) → List (String × α)
  | [] => [(key, value)]
  | (k, v) :: rest =>
    if key < k then (key, value) :: (k, v) :: rest
    else if key = k then (key, value) :: rest
    else (k, v) :: put key value rest

def Sorted (entries : List (String × α)) : Prop :=
  entries.Pairwise fun a b => a.1 < b.1

theorem mem_put {key : String} {value : α} {entries : List (String × α)} {e : String × α}
    (h : e ∈ put key value entries) : e = (key, value) ∨ e ∈ entries := by
  induction entries with
  | nil => simpa [put] using h
  | cons head rest ih =>
    obtain ⟨k, v⟩ := head
    simp only [put] at h
    split at h
    · simpa using h
    · split at h
      · rcases List.mem_cons.1 h with h | h
        · exact .inl h
        · exact .inr (List.mem_cons_of_mem _ h)
      · rcases List.mem_cons.1 h with h | h
        · exact .inr (h ▸ List.mem_cons_self)
        · exact (ih h).imp id (List.mem_cons_of_mem _)

theorem put_sorted (key : String) (value : α) {entries : List (String × α)}
    (h : Sorted entries) : Sorted (put key value entries) := by
  induction entries with
  | nil => simp [put, Sorted]
  | cons head rest ih =>
    obtain ⟨k, v⟩ := head
    obtain ⟨hall, hrest⟩ := List.pairwise_cons.1 h
    simp only [put]
    split
    · next hlt =>
      refine List.pairwise_cons.2 ⟨fun e he => ?_, h⟩
      rcases List.mem_cons.1 he with he | he
      · exact he ▸ hlt
      · exact String.lt_trans hlt (hall e he)
    · next hle =>
      split
      · next heq => exact List.pairwise_cons.2 ⟨fun e he => heq ▸ hall e he, hrest⟩
      · next hne =>
        refine List.pairwise_cons.2 ⟨fun e he => ?_, ih hrest⟩
        rcases mem_put he with he | he
        · subst he
          refine Classical.byContradiction fun hnot => hne ?_
          exact String.le_antisymm (String.not_lt.1 hnot) (String.not_lt.1 hle)
        · exact hall e he

end Entries

structure Dict (α : Type) where
  entries : List (String × α)
  sorted : Entries.Sorted entries

namespace Dict

variable {α : Type}

def empty : Dict α := ⟨[], List.Pairwise.nil⟩

instance : Inhabited (Dict α) := ⟨empty⟩

instance : EmptyCollection (Dict α) := ⟨empty⟩

def insert (d : Dict α) (key : String) (value : α) : Dict α :=
  ⟨Entries.put key value d.entries, Entries.put_sorted key value d.sorted⟩

def erase (d : Dict α) (key : String) : Dict α :=
  ⟨d.entries.filter (·.1 != key), d.sorted.filter _⟩

def find? (d : Dict α) (key : String) : Option α :=
  (d.entries.find? (·.1 == key)).map Prod.snd

def contains (d : Dict α) (key : String) : Bool := (d.find? key).isSome

def keys (d : Dict α) : List String := d.entries.map Prod.fst

def size (d : Dict α) : Nat := d.entries.length

/-- Of two entries with one key the later counts. -/
def ofList (entries : List (String × α)) : Dict α :=
  entries.foldl (fun d e => d.insert e.1 e.2) empty

theorem ext {d e : Dict α} (h : d.entries = e.entries) : d = e := by
  cases d; cases e; cases h; rfl

instance [DecidableEq α] : DecidableEq (Dict α) := fun d e =>
  if h : d.entries = e.entries then isTrue (ext h) else isFalse fun he => h (he ▸ rfl)

end Dict

end Lookout
