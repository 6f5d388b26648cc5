import HostMeter.Proofs.Documents.Numbers
set_option autoImplicit false

/-! A document that is written as text is read back as it was: quoted texts with their escapes, numbers
that have a text of their own, and lists and objects of such parts at any depth. -/

namespace HostMeter

namespace Doc

variable {F : Binary64 → Prop} {d : Doc} {v : Json} {vs : List Json} {fs : List (String × Json)}
  {k : String} {fuel : Nat} {cs tail rest : List Char} {c : Char}

@[simp] theorem spoil_false (q : Quote) : q.spoil false = q := rfl

theorem hexValue?_hexDigit (n : Nat) : hexValue? (Json.hexDigit n) = some (n%16) := by
  have h : ∀ m < 16,hexValue? (Nat.digitChar m) = some m := by decide
  exact h (n%16) (Nat.mod_lt n (by decide))

theorem readQuote_control (h : c.toNat < 0x20) (rest : List Char) :
    readQuote none ('\\' :: 'u' :: '0' :: '0' :: Json.hexDigit (c.toNat/16) ::
        Json.hexDigit c.toNat :: rest) = .push c (readQuote none rest) := by
  have hu : hexUnit? '0' '0' (Json.hexDigit (c.toNat/16)) (Json.hexDigit c.toNat) =
      some c.toNat := by
    have h0 : hexValue? '0' = some 0 := by decide
    simp only [hexUnit?,hexValue?_hexDigit,h0]
    show some _ = some _
    congr 1
    omega
  have hl : isLead c.toNat = false := by
    simp [isLead]
    omega
  have ht : isTrail c.toNat = false := by
    simp [isTrail]
    omega
  rw [readQuote.eq_def]
  simp [hu,hl,ht,Char.ofNat_toNat]

theorem readQuote_plain (hq : c ≠ '"') (hb : c ≠ '\\') (hc : ¬c.toNat < 0x20) (rest : List Char) :
    readQuote none (c :: rest) = .push c (readQuote none rest) := by
  rw [readQuote.eq_def]
  split
  case h_1 h => cases h
  case h_6 h =>
    cases h
    exact absurd rfl hq
  case h_7 h =>
    cases h
    rw [if_neg hc]
    exact spoil_false _
  all_goals
    rename_i h
    cases h
    exact absurd rfl hb

theorem readQuote_escapeChar (c : Char) (rest : List Char) :
    readQuote none (Json.escapeChar c++rest) = .push c (readQuote none rest) := by
  unfold Json.escapeChar
  split
  · subst_vars
    rfl
  split
  · subst_vars
    rfl
  split
  · subst_vars
    rfl
  split
  · subst_vars
    rfl
  split
  · subst_vars
    rfl
  split
  · subst_vars
    rfl
  split
  · subst_vars
    rfl
  split
  · rename_i h
    exact readQuote_control h rest
  · rename_i hq hb _ _ _ _ _ hc
    exact readQuote_plain hq hb hc rest

theorem readQuote_escape (cs rest : List Char) :
    readQuote none (cs.flatMap Json.escapeChar++ '"' :: rest) = ⟨cs,none,.ok rest⟩ := by
  induction cs with
  | nil => rfl
  | cons c cs ih =>
    rw [List.flatMap_cons,List.append_assoc,readQuote_escapeChar,ih]
    rfl

variable {stop : Option Fault} {ds : List Doc} {es : List (Except Fault String × Doc)}
  {after : Option (List Char)}

theorem readItems_skipSpace (fuel : Nat) (cs : List Char) :
    readItems fuel (skipSpace cs) = readItems fuel cs := by
  cases fuel with
  | zero => rfl
  | succ fuel => rw [readItems,readItems,readValue_skipSpace]

theorem readItems_last (h : readValue fuel cs = ⟨d,some (']' :: tail)⟩) :
    readItems (fuel+1) cs = ([d],none,some tail) := by
  rw [readItems,h]
  simp only [skipSpace_cons (show isSpace ']' = false by decide)]

theorem readItems_more (h : readValue fuel cs = ⟨d,some (',' :: rest)⟩)
    (hs : ∃ c cs,skipSpace rest = c :: cs ∧ c ≠ ']') (hr : readItems fuel rest = (ds,stop,after)) :
    readItems (fuel+1) cs = (d :: ds,stop,after) := by
  obtain ⟨c,cs',hs,hc⟩ := hs
  have hr : readItems fuel (c :: cs') = (ds,stop,after) := by
    rw [← hs,readItems_skipSpace,hr]
  rw [readItems,h]
  simp only [skipSpace_cons (show isSpace ',' = false by decide),hs]
  split
  · rename_i hm
    cases hm
    exact absurd rfl hc
  · rename_i hm
    cases hm
  · rw [hr]

theorem readValue_arr (hs : ∃ c cs,skipSpace rest = c :: cs ∧ c ≠ ']')
    (hr : readItems fuel rest = (ds,stop,after)) :
    readValue (fuel+1) ('[' :: rest) = ⟨.seq ds stop,after⟩ := by
  obtain ⟨c,cs,hs,hc⟩ := hs
  have hr : readItems fuel (c :: cs) = (ds,stop,after) := by
    rw [← hs,readItems_skipSpace,hr]
  rw [readValue,skipSpace_cons (show isSpace '[' = false by decide)]
  simp only [hs]
  split
  · rename_i hm
    cases hm
    exact absurd rfl hc
  · rename_i hm
    cases hm
  · rw [hr]

theorem readFields_last (h : readValue fuel rest = ⟨d,some ('}' :: tail)⟩) :
    readFields (fuel+1) (k.toList.flatMap Json.escapeChar++ '"' :: ':' :: rest) =
      ([(.ok k,d)],none,some tail) := by
  rw [readFields]
  simp [readQuote_escape,skipSpace_cons (show isSpace ':' = false by decide),h,
    skipSpace_cons (show isSpace '}' = false by decide),Quote.wanted]

theorem readFields_more (h : readValue fuel rest = ⟨d,some (',' :: '"' :: cs)⟩)
    (hr : readFields fuel cs = (es,stop,after)) :
    readFields (fuel+1) (k.toList.flatMap Json.escapeChar++ '"' :: ':' :: rest) =
      ((.ok k,d) :: es,stop,after) := by
  rw [readFields]
  simp [readQuote_escape,skipSpace_cons (show isSpace ':' = false by decide),h,
    skipSpace_cons (show isSpace ',' = false by decide),
    skipSpace_cons (show isSpace '"' = false by decide),Quote.wanted,hr]

theorem readValue_obj (hr : readFields fuel rest = (es,stop,after)) :
    readValue (fuel+1) ('{' :: '"' :: rest) = ⟨.map es stop,after⟩ := by
  rw [readValue,skipSpace_cons (show isSpace '{' = false by decide)]
  simp only [skipSpace_cons (show isSpace '"' = false by decide),hr]

theorem readValue_str (k : String) (fuel : Nat) (tail : List Char) :
    readValue (fuel+1) (Json.wireText k++tail) = ⟨.str k,some tail⟩ := by
  have hq : Json.wireText k++tail = '"' :: (k.toList.flatMap Json.escapeChar++ '"' :: tail) := by
    simp [Json.wireText]
  rw [hq,readValue,skipSpace_cons (show isSpace '"' = false by decide)]
  simp [readQuote_escape,Quote.wanted]

mutual

/-- Every whole number in a document fits in a word, and every other has a property. -/
def Numeric (F : Binary64 → Prop) : Doc → Prop
  | .int n => -(limit63 : Int) ≤ n ∧ n < limit64
  | .float x => F x
  | .seq items _ => NumericItems F items
  | .map fields _ => NumericFields F fields
  | .keyless first => Numeric F first
  | _ => True

def NumericItems (F : Binary64 → Prop) : List Doc → Prop
  | [] => True
  | d :: ds => Numeric F d ∧ NumericItems F ds

def NumericFields (F : Binary64 → Prop) : List (Except Fault String × Doc) → Prop
  | [] => True
  | (_,d) :: fs => Numeric F d ∧ NumericFields F fs

end

theorem toList_ofNat (m : Nat) : (toString (Int.ofNat m)).toList = Nat.toDigits 10 m :=
  String.toList_ofList

theorem toList_negSucc (m : Nat) :
    (toString (Int.negSucc m)).toList = '-' :: Nat.toDigits 10 (m+1) := by
  show ("-"++(m+1).repr).toList = _
  simp [String.toList_append,Nat.repr_eq_ofList_toDigits]

theorem toDigits_cons (m : Nat) : ∃ c ds,Nat.toDigits 10 m = c :: ds ∧ c.isDigit = true := by
  cases h : Nat.toDigits 10 m with
  | nil => exact absurd h Nat.toDigits_ne_nil
  | cons c ds =>
    have hc : c ∈ Nat.toDigits 10 m := h ▸ List.mem_cons_self
    exact ⟨c,ds,rfl,Nat.isDigit_of_mem_toDigits (by decide) (by decide) hc⟩

theorem readValue_int {n : Int} (h : -(limit63 : Int) ≤ n ∧ n < limit64) (ht : Closes tail)
    (fuel : Nat) : readValue (fuel+1) ((toString n).toList++tail) = ⟨.int n,some tail⟩ := by
  cases n with
  | ofNat m =>
    obtain ⟨c,ds,hd,hc⟩ := toDigits_cons m
    have hn := readNumber_toDigits false m ht
    rw [number_toDigits (Int.ofNat_lt.mp h.2),hd] at hn
    rw [toList_ofNat,hd,List.cons_append,readValue_digit hc]
    exact hn
  | negSucc m =>
    have hm : m+1 ≤ limit63 := by
      have := h.1
      omega
    have hn := readNumber_toDigits true (m+1) ht
    rw [number_toDigits_neg (Nat.succ_pos m) hm] at hn
    rw [toList_negSucc,List.cons_append,readValue_minus]
    exact hn

theorem wire_of_survives {x : Binary64} (h : x.Survives) :
    (Json.float x).wire = x.documentText.toList := by
  rw [Json.wire,Json.wireFloat,if_pos h.1]

theorem digit_ne_bracket (h : c.isDigit = true) : c ≠ ']' := by
  rintro rfl
  revert h
  decide

theorem skipSpace_wire (h : (ofJson v).Numeric Binary64.Survives) (tail : List Char) :
    ∃ c cs,skipSpace (v.wire++tail) = c :: cs ∧ c ≠ ']' := by
  cases v with
  | null => exact ⟨_,_,skipSpace_cons (by decide),by decide⟩
  | bool b => cases b <;> exact ⟨_,_,skipSpace_cons (by decide),by decide⟩
  | str s => exact ⟨_,_,skipSpace_cons (by decide),by decide⟩
  | arr items => exact ⟨_,_,skipSpace_cons (by decide),by decide⟩
  | obj fields => exact ⟨_,_,skipSpace_cons (by decide),by decide⟩
  | int n =>
    cases n with
    | ofNat m =>
      obtain ⟨c,ds,hd,hc⟩ := toDigits_cons m
      rw [Json.wire,toList_ofNat,hd]
      exact ⟨_,_,skipSpace_cons (isSpace_of_isDigit hc),digit_ne_bracket hc⟩
    | negSucc m =>
      rw [Json.wire,toList_negSucc]
      exact ⟨_,_,skipSpace_cons (by decide),by decide⟩
  | float x =>
    have hs : x.Survives := h
    rw [wire_of_survives hs]
    rcases readValue_eq_float hs.2 with ⟨ds,hd,-⟩ | ⟨c,ds,hc,hd,-⟩
    · exact ⟨_,_,skipSpace_append hd,by decide⟩
    · exact ⟨_,_,skipSpace_append hd,digit_ne_bracket hc⟩

theorem length_wire_pos (h : (ofJson v).Numeric Binary64.Survives) : 0 < v.wire.length := by
  obtain ⟨c,cs,hs,-⟩ := skipSpace_wire h []
  cases hw : v.wire with
  | nil =>
    rw [hw] at hs
    cases hs
  | cons c cs => exact Nat.succ_pos _

theorem exists_wireItems (v : Json) (vs : List Json) :
    ∃ cs,Json.wireItems (v :: vs) = v.wire++cs := by
  cases vs with
  | nil => exact ⟨[],(List.append_nil _).symm⟩
  | cons w vs => exact ⟨_,rfl⟩

mutual

/-- A value whose numbers have a text of their own is read back from its text. -/
theorem readValue_wire (v : Json) (fuel : Nat) (tail : List Char)
    (h : (ofJson v).Numeric Binary64.Survives) (hf : v.wire.length ≤ fuel) (ht : Closes tail) :
    readValue fuel (v.wire++tail) = ⟨ofJson v,some tail⟩ := by
  have hpos := length_wire_pos h
  obtain ⟨fuel,rfl⟩ : ∃ n,fuel = n+1 := ⟨fuel-1,by omega⟩
  match v with
  | .null => rfl
  | .bool true => rfl
  | .bool false => rfl
  | .int n => exact readValue_int h ht fuel
  | .float x =>
    have hs : x.Survives := h
    rw [wire_of_survives hs]
    exact readValue_float hs.2 ht fuel
  | .str s => exact readValue_str s fuel tail
  | .arr [] => rfl
  | .arr (v :: vs) =>
    have hl : (Json.wireItems (v :: vs)).length < fuel := by
      simp only [Json.wire,List.length_cons,List.length_append] at hf
      omega
    have hi := readItems_wire v vs fuel tail h hl
    have hs : ∃ c cs,skipSpace (Json.wireItems (v :: vs)++ ']' :: tail) = c :: cs ∧ c ≠ ']' := by
      obtain ⟨cs,hcs⟩ := exists_wireItems v vs
      rw [hcs,List.append_assoc]
      exact skipSpace_wire h.1 _
    have hw : (Json.arr (v :: vs)).wire++tail = '[' :: (Json.wireItems (v :: vs)++ ']' :: tail) := by
      simp [Json.wire]
    rw [hw,readValue_arr hs hi]
    rfl
  | .obj [] => rfl
  | .obj ((k,v) :: fs) =>
    have hl : (Json.wireFields ((k,v) :: fs)).length < fuel := by
      simp only [Json.wire,List.length_cons,List.length_append] at hf
      omega
    obtain ⟨cs,hcs,hr⟩ := readFields_wire k v fs fuel tail h hl
    have hw : (Json.obj ((k,v) :: fs)).wire++tail = '{' :: '"' :: cs := by
      rw [← hcs]
      simp [Json.wire]
    rw [hw,readValue_obj hr]
    rfl
termination_by fuel

theorem readItems_wire (v : Json) (vs : List Json) (fuel : Nat) (tail : List Char)
    (h : NumericItems Binary64.Survives (ofItems (v :: vs)))
    (hf : (Json.wireItems (v :: vs)).length < fuel) :
    readItems fuel (Json.wireItems (v :: vs)++ ']' :: tail) = (ofItems (v :: vs),none,some tail) := by
  obtain ⟨fuel,rfl⟩ : ∃ n,fuel = n+1 := ⟨fuel-1,by omega⟩
  match vs with
  | [] =>
    have hv := readValue_wire v fuel (']' :: tail) h.1 (Nat.le_of_lt_succ hf)
      (closes_cons (by decide))
    exact readItems_last hv
  | w :: vs =>
    simp only [Json.wireItems,List.length_cons,List.length_append] at hf
    have hv := readValue_wire v fuel (',' :: (Json.wireItems (w :: vs)++ ']' :: tail)) h.1 (by omega)
      (closes_cons (by decide))
    have hi := readItems_wire w vs fuel tail h.2 (by omega)
    have hs : ∃ c cs,skipSpace (Json.wireItems (w :: vs)++ ']' :: tail) = c :: cs ∧ c ≠ ']' := by
      obtain ⟨cs,hcs⟩ := exists_wireItems w vs
      rw [hcs,List.append_assoc]
      exact skipSpace_wire h.2.1 _
    have hw : Json.wireItems (v :: w :: vs)++ ']' :: tail =
        v.wire++ ',' :: (Json.wireItems (w :: vs)++ ']' :: tail) := by
      simp [Json.wireItems]
    rw [hw,readItems_more hv hs hi]
    rfl
termination_by fuel

theorem readFields_wire (k : String) (v : Json) (fs : List (String × Json)) (fuel : Nat)
    (tail : List Char) (h : NumericFields Binary64.Survives (ofFields ((k,v) :: fs)))
    (hf : (Json.wireFields ((k,v) :: fs)).length < fuel) :
    ∃ cs,Json.wireFields ((k,v) :: fs)++ '}' :: tail = '"' :: cs ∧
      readFields fuel cs = (ofFields ((k,v) :: fs),none,some tail) := by
  obtain ⟨fuel,rfl⟩ : ∃ n,fuel = n+1 := ⟨fuel-1,by omega⟩
  match fs with
  | [] =>
    simp only [Json.wireFields,List.length_cons,List.length_append] at hf
    have hv := readValue_wire v fuel ('}' :: tail) h.1 (by omega) (closes_cons (by decide))
    refine ⟨k.toList.flatMap Json.escapeChar++ '"' :: ':' :: (v.wire++ '}' :: tail),?_,?_⟩
    · simp [Json.wireFields,Json.wireText]
    · rw [readFields_last hv]
      rfl
  | (k',v') :: fs =>
    simp only [Json.wireFields,List.length_cons,List.length_append] at hf
    obtain ⟨cs,hcs,hr⟩ := readFields_wire k' v' fs fuel tail h.2 (by omega)
    have hv := readValue_wire v fuel (',' :: '"' :: cs) h.1 (by omega) (closes_cons (by decide))
    refine ⟨k.toList.flatMap Json.escapeChar++ '"' :: ':' :: (v.wire++ ',' :: '"' :: cs),?_,?_⟩
    · rw [← hcs]
      simp [Json.wireFields,Json.wireText]
    · rw [readFields_more hv hr]
      rfl
termination_by fuel

end

/-- The text of a value is the document of the value, with nothing behind it. -/
theorem read_text (h : (ofJson v).Numeric Binary64.Survives) : read v.text = (ofJson v,none) := by
  have hv := readValue_wire v (v.wire.length+1) [] h (Nat.le_succ _) closes_nil
  rw [List.append_nil] at hv
  have ht : v.text.toList = v.wire := String.toList_ofList
  rw [read,ht,hv]
  rfl

end Doc

end HostMeter
