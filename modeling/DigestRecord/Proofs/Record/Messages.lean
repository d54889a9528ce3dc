import DigestRecord.Proofs.Record.Independence
import DigestRecord.Proofs.Text.Printing

/-!
# What a refusal to read says

A refusal may show what was found in place of the algorithm or of the count, and both come from the text,
which may come from anywhere. So all of it goes through the quotes or through the display of a number. A
message is therefore one printable line, and whoever writes it to a log writes one line.

Of the algorithm the text is shown between quotes, which is enough whatever the text is. Of the count any
value may be shown: an induction on values, with their items and members.

## Main results

* `Json.Value.isShowable_display` — every value is shown in printable characters
* `ReadError.isPlainLine_text` — the message of a refusal to read is one printable line
* `read_refuses_in_one_line` — a text is read, or is refused in one printable line
-/

namespace DigestRecord

/-! ## Numbers -/

namespace Binary64

theorem isDigit_of_mem_significantDigits {d : ShortDecimal} {c : Char}
    (h : c ∈ significantDigits d) : Decimal.isDigit c = true := by
  rw [significantDigits, List.mem_reverse] at h
  have hdigits := (List.dropWhile_sublist _).subset h
  exact Decimal.isDigit_of_mem_ofNat (List.mem_reverse.mp hdigits)

theorem isShowable_positional {digits : List Char} (h : IsShowable digits) (exponent : Int) :
    IsShowable (positional digits exponent) := by
  rw [positional]
  split
  · exact .cons (by decide) (.cons (by decide) ((IsShowable.replicate _ (by decide)).append h))
  · dsimp only
    split
    · exact (h.append (.replicate _ (by decide))).append (by decide)
    · exact (h.subset (List.take_subset _ _)).append
        (.cons (by decide) (h.subset (List.drop_subset _ _)))

theorem isShowable_exponentText (exponent : Int) : IsShowable (exponentText exponent) := by
  have hdigits := Decimal.isShowable_ofNat exponent.natAbs
  rw [exponentText]
  refine .cons ?_ ?_
  · split <;> decide
  · split
    · exact .cons (by decide) hdigits
    · exact hdigits

theorem isShowable_scientific {digits : List Char} (h : IsShowable digits) (exponent : Int) :
    IsShowable (scientific digits exponent) := by
  have hexponent := isShowable_exponentText exponent
  rcases digits with _ | ⟨d, _ | ⟨e, ds⟩⟩
  · exact .nil
  · exact h.append (.cons (by decide) hexponent)
  · obtain ⟨hd, hds⟩ := List.forall_mem_cons.mp h
    exact .cons hd (.cons (by decide) (IsShowable.append hds (.cons (by decide) hexponent)))

theorem isShowable_display (x : Binary64) : IsShowable x.display := by
  have hsign : ∀ negative : Bool, IsShowable (if negative then ['-'] else []) := by decide
  cases x with
  | nan => decide
  | infinite negative => exact (hsign negative).append (by decide)
  | finite negative significand scale =>
    refine (hsign negative).append ?_
    have hdigits := Decimal.isShowable_of_isDigit fun _ hc =>
      isDigit_of_mem_significantDigits (d := shortest significand scale) hc
    split
    · decide
    · rw [ShortDecimal.display]
      split
      · exact isShowable_positional hdigits _
      · exact isShowable_scientific hdigits _

end Binary64

/-! ## Values -/

namespace Json

theorem isShowable_commaSeparated {ts : List (List Char)} (h : ∀ t ∈ ts, IsShowable t) :
    IsShowable (commaSeparated ts) := by
  fun_induction commaSeparated ts with
  | case1 => exact .nil
  | case2 t => exact h t List.mem_cons_self
  | case3 t ts _ ih =>
    obtain ⟨ht, hts⟩ := List.forall_mem_cons.mp h
    exact ht.append (.cons (by decide) (.cons (by decide) (ih hts)))

mutual

/-- **Every value is shown in printable characters**, whatever is in it. -/
theorem Value.isShowable_display : (v : Value) → IsShowable v.display
  | .null => by decide
  | .bool true => by decide
  | .bool false => by decide
  | .int n => Decimal.isShowable_ofInt n
  | .float x => x.isShowable_display
  | .string t => t.isShowable_quoted
  | .array items =>
    have hitems := isShowable_commaSeparated (isShowable_displayItems items)
    .cons (by decide) (hitems.append (by decide))
  | .object members =>
    have hmembers := isShowable_commaSeparated (isShowable_displayMembers members)
    .cons (by decide) (hmembers.append (by decide))

theorem isShowable_displayItems : (items : List Value) → ∀ t ∈ displayItems items, IsShowable t
  | [] => nofun
  | v :: items =>
    List.forall_mem_cons.mpr ⟨v.isShowable_display, isShowable_displayItems items⟩

theorem isShowable_displayMembers :
    (members : List (Text × Value)) → ∀ t ∈ displayMembers members, IsShowable t
  | [] => nofun
  | (name, v) :: members =>
    have hmember := name.isShowable_quoted.append
      (.cons (by decide) (.cons (by decide) v.isShowable_display))
    List.forall_mem_cons.mpr ⟨hmember, isShowable_displayMembers members⟩

end

end Json

/-! ## Refusals -/

theorem isShowable_toList_append {s t : String} (hs : IsShowable s.toList)
    (ht : IsShowable t.toList) : IsShowable (s ++ t).toList := by
  rw [String.toList_append]
  exact hs.append ht

theorem isShowable_toList_ofList {cs : List Char} (h : IsShowable cs) :
    IsShowable (String.ofList cs).toList := by
  rwa [String.toList_ofList]

namespace Json

theorem Position.isShowable_message (p : Position) : IsShowable p.message.toList := by
  have hnumber : ∀ n, IsShowable (String.ofList (Decimal.ofNat n)).toList :=
    fun n => isShowable_toList_ofList (Decimal.isShowable_ofNat n)
  have hline := isShowable_toList_append (s := "line ") (by decide) (hnumber p.line)
  have hcolumn := isShowable_toList_append (t := " column ") hline (by decide)
  have hplace := isShowable_toList_append hcolumn (hnumber p.column)
  have hindex := isShowable_toList_append (t := " (char ") hplace (by decide)
  exact isShowable_toList_append (isShowable_toList_append hindex (hnumber p.index)) (by decide)

theorem Issue.isShowable_message (issue : Issue) : IsShowable issue.message.toList := by
  cases issue <;> decide

theorem DecodeError.isShowable_message (e : DecodeError) : IsShowable e.message.toList := by
  cases e with
  | malformed issue position =>
    have hissue := isShowable_toList_append (t := ": ") issue.isShowable_message (by decide)
    exact isShowable_toList_append hissue position.isShowable_message
  | tooDeep container =>
    have hname : IsShowable container.name.toList := by cases container <;> decide
    exact isShowable_toList_append (isShowable_toList_append (by decide) hname) (by decide)
  | tooManyDigits digits =>
    have hnumber := isShowable_toList_ofList (Decimal.isShowable_ofNat digits)
    exact isShowable_toList_append (isShowable_toList_append (by decide) hnumber) (by decide)

end Json

namespace Record

theorem ReadError.isShowable_message (e : ReadError) : IsShowable e.message.toList := by
  cases e with
  | undecodable e =>
    cases e with
    | malformed issue position =>
      exact isShowable_toList_append (by decide) (Json.DecodeError.isShowable_message _)
    | tooDeep container => exact Json.DecodeError.isShowable_message _
    | tooManyDigits digits => exact Json.DecodeError.isShowable_message _
  | notAnObject => decide
  | algorithm found =>
    exact isShowable_toList_append (by decide) (isShowable_toList_ofList found.isShowable_quoted)
  | hashLength found =>
    exact isShowable_toList_append (by decide)
      (isShowable_toList_ofList (Decimal.isShowable_ofNat found))
  | hashNotHex => decide
  | byteCount found =>
    exact isShowable_toList_append (by decide) (isShowable_toList_ofList found.isShowable_display)

/-- The text of the fault is the message, whoever is blamed. -/
theorem ReadError.text_fault (e : ReadError) : e.fault.text = e.message := by
  cases e with
  | undecodable e => cases e <;> rfl
  | _ => rfl

/-- **The message of a refusal to read is one printable line**, whatever was found. -/
theorem ReadError.isPlainLine_text (e : ReadError) : IsPlainLine e.fault.text.toList := by
  rw [e.text_fault]
  exact e.isShowable_message.isPlainLine

/-- **A text is read, or is refused in one printable line**, whatever the text is and whatever is shown of
it: no line break is in the message, no control character and no surrogate. So is the message of the
refusal that is its cause. -/
theorem read_refuses_in_one_line (allowed : Json.DepthLimit) (text : String) :
    (∃ d, read allowed text = .ok d) ∨
      ∃ e, read allowed text = .error e ∧ IsPlainLine e.fault.text.toList ∧
        ∀ cause, e.cause = some cause → IsPlainLine cause.message.toList := by
  cases hread : read allowed text with
  | ok d => exact .inl ⟨d, rfl⟩
  | error e =>
    exact .inr ⟨e, rfl, e.isPlainLine_text, fun cause _ => cause.isShowable_message.isPlainLine⟩

/-- An algorithm with a line break in it and with a surrogate that stands alone, both escaped. -/
theorem read_refuses_line_break :
    ∃ e, read .standard "\x7b\"algorithm\":\"a\\nb\\ud800\"\x7d" = .error e ∧
      e.fault.text = "Unexpected algorithm: 'a\\nb\\ud800'" ∧ IsPlainLine e.fault.text.toList := by
  have hinside : ∀ rest, Json.Characters ('a' :: '\\' :: 'n' :: 'b' :: '\\' :: 'u' :: 'd' :: '8' :: '0' ::
      '0' :: '"' :: rest) [.ofChar 'a', .ofChar '\n', .ofChar 'b', ⟨0xd800, by decide⟩] rest :=
    fun rest => .plain (by decide) (by decide) (by decide) (.letter (by decide)
      (.plain (by decide) (by decide) (by decide) (.numbered (.mk rfl) nofun .close)))
  have hmember : ∀ rest, Json.Member (Json.Spells 0 0) _ _ rest := fun rest =>
    Json.member_of_isPlain "algorithm" (by decide) (Json.Scalar.string (hinside rest))
  have hmembers : HasMembers .standard "\x7b\"algorithm\":\"a\\nb\\ud800\"\x7d" _ :=
    hasMembers_of_length_le (by decide) ⟨_, [], .none, .parts .none (.last (hmember _) .none), .none⟩
  have hread : read .standard "\x7b\"algorithm\":\"a\\nb\\ud800\"\x7d" =
      .error (.algorithm [.ofChar 'a', .ofChar '\n', .ofChar 'b', ⟨0xd800, by decide⟩]) :=
    hmembers.read_eq
  rcases read_refuses_in_one_line .standard "\x7b\"algorithm\":\"a\\nb\\ud800\"\x7d" with
    ⟨d, hd⟩ | ⟨e, he, hplain, -⟩
  · rw [hread] at hd
    cases hd
  · obtain rfl := Except.error.inj (hread.symm.trans he)
    exact ⟨_, hread, by decide +kernel, hplain⟩

end Record

end DigestRecord
