/-!
# Blank characters

The characters with the Unicode property White_Space, and the text that is left when they are
stripped from both ends. Main statement: a text without blanks is left as it is.
-/
namespace Criteria.Text

/-- The 25 characters with the property White_Space. -/
def isBlank (c : Char) : Bool :=
  let n := c.toNat
  (9 ≤ n && n ≤ 13) || n == 0x20 || n == 0x85 || n == 0xa0 || n == 0x1680 ||
    (0x2000 ≤ n && n ≤ 0x200a) || n == 0x2028 || n == 0x2029 || n == 0x202f || n == 0x205f ||
    n == 0x3000

def stripBlanks (cs : List Char) : List Char :=
  ((cs.dropWhile isBlank).reverse.dropWhile isBlank).reverse

def trim (s : String) : String :=
  String.ofList (stripBlanks s.toList)

def isAllBlank (s : String) : Bool :=
  s.toList.all isBlank

theorem isBlank_of_visible {c : Char} (h : 33 ≤ c.toNat ∧ c.toNat ≤ 126) : isBlank c = false := by
  simp only [isBlank, Bool.or_eq_false_iff, Bool.and_eq_false_iff, decide_eq_false_iff_not,
    beq_eq_false_iff_ne]
  omega

theorem dropWhile_isBlank_of_forall {cs : List Char} (h : ∀ c ∈ cs, isBlank c = false) :
    cs.dropWhile isBlank = cs := by
  cases cs with
  | nil => rfl
  | cons c cs =>
    have hc : ¬isBlank c = true := by simp [h c List.mem_cons_self]
    rw [List.dropWhile_cons_of_neg hc]

theorem stripBlanks_of_forall {cs : List Char} (h : ∀ c ∈ cs, isBlank c = false) :
    stripBlanks cs = cs := by
  have hr : ∀ c ∈ cs.reverse, isBlank c = false := fun c hc => h c (List.mem_reverse.mp hc)
  rw [stripBlanks, dropWhile_isBlank_of_forall h, dropWhile_isBlank_of_forall hr,
    List.reverse_reverse]

end Criteria.Text
