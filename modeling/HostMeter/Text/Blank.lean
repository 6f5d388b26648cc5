set_option autoImplicit false

/-! Blanks, lines and words of a text. A blank is any character with the White_Space property. -/

namespace HostMeter.Text

def blankRanges : List (Nat × Nat) :=
  [(0x9,0xD),(0x20,0x20),(0x85,0x85),(0xA0,0xA0),(0x1680,0x1680),(0x2000,0x200A),
   (0x2028,0x2029),(0x202F,0x202F),(0x205F,0x205F),(0x3000,0x3000)]

def inRanges (rs : List (Nat × Nat)) (n : Nat) : Bool := rs.any (fun r => r.1 ≤ n ∧ n ≤ r.2)

def isBlank (c : Char) : Bool := inRanges blankRanges c.toNat

theorem isBlank_of_isWhitespace {c : Char} (h : c.isWhitespace) : isBlank c := by
  simp only [Char.isWhitespace,Bool.or_eq_true,decide_eq_true_eq] at h
  rcases h with ((rfl | rfl) | rfl) | rfl <;> decide

def trimStart (cs : List Char) : List Char := cs.dropWhile isBlank
def trimEnd (cs : List Char) : List Char := (cs.reverse.dropWhile isBlank).reverse
def trim (cs : List Char) : List Char := trimEnd (trimStart cs)

/-- Splits at every separator; there is always one more piece than separators. -/
def splitAll (p : Char → Bool) : List Char → List (List Char)
  | [] => [[]]
  | c :: cs =>
    if p c then [] :: splitAll p cs
    else match splitAll p cs with
      | [] => [[c]]
      | piece :: pieces => (c :: piece) :: pieces

def words (cs : List Char) : List (List Char) := (splitAll isBlank cs).filter (· ≠ [])

def dropReturn (cs : List Char) : List Char :=
  if cs.getLast? = some '\r' then cs.dropLast else cs

/-- Every piece before a line feed, less one carriage return, and what follows the last line feed
when anything does. -/
def lines (cs : List Char) : List (List Char) :=
  let pieces := splitAll (· == '\n') cs
  pieces.dropLast.map dropReturn++(pieces.getLast?.filter (· ≠ [])).toList

def splitOnce (sep : Char) : List Char → Option (List Char × List Char)
  | [] => none
  | c :: cs =>
    if c = sep then some ([],cs) else (splitOnce sep cs).map (fun r => (c :: r.1,r.2))

def dropHead? : List Char → List Char → Option (List Char)
  | [],cs => some cs
  | _ :: _,[] => none
  | p :: ps,c :: cs => if p = c then dropHead? ps cs else none

def dropTail? (tail cs : List Char) : Option (List Char) :=
  (dropHead? tail.reverse cs.reverse).map List.reverse

theorem dropHead?_eq_some {ps cs rest : List Char} : dropHead? ps cs = some rest ↔ cs = ps++rest := by
  induction ps generalizing cs with
  | nil => simp [dropHead?,eq_comm]
  | cons p ps ih =>
    cases cs with
    | nil => simp [dropHead?]
    | cons c cs => by_cases h : p = c <;> simp [dropHead?,h,ih,eq_comm]

theorem dropTail?_eq_some {tail cs rest : List Char} :
    dropTail? tail cs = some rest ↔ cs = rest++tail := by
  simp only [dropTail?,Option.map_eq_some_iff,dropHead?_eq_some]
  constructor
  · rintro ⟨r,hr,rfl⟩
    simpa using congrArg List.reverse hr
  · rintro rfl
    exact ⟨rest.reverse,by simp,by simp⟩

theorem splitOnce_eq_some {sep : Char} {cs a b : List Char} :
    splitOnce sep cs = some (a,b) ↔ cs = a++sep :: b ∧ sep ∉ a := by
  induction cs generalizing a with
  | nil => simp [splitOnce]
  | cons c cs ih =>
    by_cases h : c = sep
    · subst h
      cases a with
      | nil => simp [splitOnce,eq_comm]
      | cons a as => simp [splitOnce]; rintro rfl; simp
    · cases a with
      | nil => simp [splitOnce,h]
      | cons x xs =>
        simp only [splitOnce,h,if_false,Option.map_eq_some_iff,Prod.mk.injEq,List.cons.injEq,
          List.cons_append,Prod.exists,List.mem_cons,not_or]
        constructor
        · rintro ⟨y,z,hs,⟨rfl,rfl⟩,rfl⟩
          have := ih.mp hs
          exact ⟨⟨rfl,this.1⟩,fun e => h e.symm,this.2⟩
        · rintro ⟨⟨rfl,hs⟩,_,hn⟩
          exact ⟨xs,b,ih.mpr ⟨hs,hn⟩,⟨rfl,rfl⟩,rfl⟩

example : lines "a\r\n\nb".toList = ["a".toList,[],"b".toList] := by decide +kernel
example : words " a\u3000b ".toList = ["a".toList,"b".toList] := by decide +kernel

end HostMeter.Text
