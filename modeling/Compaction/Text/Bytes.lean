/-!
# Places in a text

Places are counted in bytes of the encoding, in which a character takes one to four of them.

* `byteCount` : how many bytes a text takes (`byteCount_eq_utf8ByteSize`);
* `dropBytes`, `takeBytes` : the text from a place on, and the text in front of it.
-/

namespace Compaction.Text

def byteCount : List Char → Nat
  | [] => 0
  | c :: cs => c.utf8Size + byteCount cs

/-- The text from a place on. -/
def dropBytes : Nat → List Char → List Char
  | 0, cs => cs
  | _, [] => []
  | n + 1, c :: cs => dropBytes (n + 1 - c.utf8Size) cs

def takeBytes : Nat → List Char → List Char
  | 0, _ => []
  | _, [] => []
  | n + 1, c :: cs => c :: takeBytes (n + 1 - c.utf8Size) cs

theorem byteCount_eq_utf8ByteSize (cs : List Char) : byteCount cs = (String.ofList cs).utf8ByteSize := by
  induction cs with
  | nil => rfl
  | cons c cs ih => rw [byteCount, ih, String.ofList_cons, String.utf8ByteSize_append, String.utf8ByteSize_singleton]

@[simp] theorem byteCount_append (cs ds : List Char) :
    byteCount (cs ++ ds) = byteCount cs + byteCount ds := by
  induction cs with
  | nil => simp [byteCount]
  | cons c cs ih => simp only [List.cons_append, byteCount, ih]; omega

@[simp] theorem dropBytes_append (cs ds : List Char) : dropBytes (byteCount cs) (cs ++ ds) = ds := by
  induction cs with
  | nil => simp [byteCount, dropBytes]
  | cons c cs ih =>
    obtain ⟨n, hn⟩ : ∃ n, c.utf8Size + byteCount cs = n + 1 :=
      ⟨c.utf8Size + byteCount cs - 1, by have := c.utf8Size_pos; omega⟩
    rw [byteCount, hn, List.cons_append, dropBytes, ← hn, Nat.add_sub_cancel_left, ih]

@[simp] theorem takeBytes_append (cs ds : List Char) : takeBytes (byteCount cs) (cs ++ ds) = cs := by
  induction cs with
  | nil => simp [byteCount, takeBytes]
  | cons c cs ih =>
    obtain ⟨n, hn⟩ : ∃ n, c.utf8Size + byteCount cs = n + 1 :=
      ⟨c.utf8Size + byteCount cs - 1, by have := c.utf8Size_pos; omega⟩
    rw [byteCount, hn, List.cons_append, takeBytes, ← hn, Nat.add_sub_cancel_left, ih]

end Compaction.Text
