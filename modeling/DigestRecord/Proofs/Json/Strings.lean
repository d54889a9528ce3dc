import DigestRecord.Proofs.Json.Scanning

/-!
# Strings and their production

The scanner completes a high surrogate by looking at the next escape, and gives up the pair in
favour of two single code points if nothing follows it. That makes no difference to the strings that
it takes: a string does not end before its quote, so after an escape there is always something left.
Here this is an argument by the derivation of what follows (`Characters.ne_nil`).

## Main results

* `numericEscape_sound`, `numericEscape_of_completed` — an escape by number, alone or completed to a
  pair
* `string_sound`, `string_complete` — strings
-/

namespace DigestRecord

namespace Json

/-! ## Escapes -/

theorem letterEscape?_eq_some_iff (e c : Char) :
    letterEscape? e = some c ↔ (e, c) ∈ letterEscapes := by
  constructor
  · intro h
    rw [letterEscape?.eq_def] at h
    split at h <;> cases h <;> decide
  · intro h
    simp only [letterEscapes, List.mem_cons, Prod.mk.injEq, List.not_mem_nil, or_false] at h
    rcases h with ⟨rfl, rfl⟩ | ⟨rfl, rfl⟩ | ⟨rfl, rfl⟩ | ⟨rfl, rfl⟩ | ⟨rfl, rfl⟩ | ⟨rfl, rfl⟩ |
      ⟨rfl, rfl⟩ | ⟨rfl, rfl⟩ <;> rfl

theorem isHighSurrogate_of_ofSurrogates? {high low p : CodePoint}
    (h : CodePoint.ofSurrogates? high low = some p) : high.isHighSurrogate = true := by
  rw [CodePoint.ofSurrogates?] at h
  split at h
  · rename_i hrange
    simp [CodePoint.isHighSurrogate, hrange.1]
  · cases h

theorem Characters.ne_nil {text rest : List Char} {t : Text} (h : Characters text t rest) :
    text ≠ [] := by
  cases h with
  | close => simp
  | plain => simp
  | letter => simp
  | pair first =>
    cases first
    simp
  | numbered escape =>
    cases escape
    simp

/-- Inside a string, a backslash and its letter are followed by four digits, and by more text. -/
theorem Characters.exists_quad {a b c d : Char} {text rest : List Char} {t : Text}
    (h : Characters ('\\' :: 'u' :: a :: b :: c :: d :: text) t rest) :
    (∃ p, quad? a b c d = some p) ∧ text ≠ [] := by
  cases h with
  | plain _ hne => exact absurd rfl hne
  | letter hmem => simp [letterEscapes] at hmem
  | pair first second =>
    cases first with
    | mk hquad =>
      cases second
      exact ⟨⟨_, hquad⟩, by simp⟩
  | numbered escape _ inside =>
    cases escape with
    | mk hquad => exact ⟨⟨_, hquad⟩, inside.ne_nil⟩

theorem completed_of_pair {p low joined : CodePoint} {text after rest : List Char} {t : Text}
    (hlow : NumberedEscape text low after) (hjoined : CodePoint.ofSurrogates? p low = some joined)
    (hrest : Characters after t rest) : completed p text = .ok (joined, after) := by
  cases hlow with
  | mk hquad =>
    have hafter : after.isEmpty = false := by simpa using hrest.ne_nil
    simp [completed, isHighSurrogate_of_ofSurrogates? hjoined, hafter, hquad, hjoined]

theorem completed_of_alone {p : CodePoint} {text rest : List Char} {t : Text}
    (halone : ∀ low after, NumberedEscape text low after → CodePoint.ofSurrogates? p low = none)
    (hrest : Characters text t rest) : completed p text = .ok (p, text) := by
  rw [completed.eq_def]
  split
  · rename_i a b c d after
    split
    · rfl
    · obtain ⟨⟨low, hlow⟩, -⟩ := hrest.exists_quad
      rw [hlow]
      simp [halone low after (.mk hlow)]
  · rfl

/-- What an escape was completed to, in front of text that goes on as the inside of a string. -/
theorem Characters.of_completed {p q : CodePoint} {text after rest : List Char} {t : Text}
    {a b c d : Char} (hquad : quad? a b c d = some p) (h : completed p text = .ok (q, after))
    (hrest : Characters after t rest) :
    Characters ('\\' :: 'u' :: a :: b :: c :: d :: text) (q :: t) rest := by
  rw [completed.eq_def] at h
  split at h
  · rename_i a' b' c' d' later
    split at h
    · rename_i hsingle
      cases h
      refine .numbered (.mk hquad) (fun low afterLow hlow => ?_) hrest
      cases hlow
      rw [Bool.or_eq_true, Bool.not_eq_true', List.isEmpty_iff] at hsingle
      have hlow : p.isHighSurrogate = false := hsingle.resolve_right hrest.exists_quad.2
      by_contra hne
      obtain ⟨joined, hjoined⟩ := Option.ne_none_iff_exists'.mp hne
      rw [isHighSurrogate_of_ofSurrogates? hjoined] at hlow
      cases hlow
    · split at h
      · cases h
      · rename_i low hlow
        split at h
        · rename_i joined hjoined
          cases h
          exact .pair (.mk hquad) (.mk hlow) hjoined hrest
        · rename_i hnone
          cases h
          refine .numbered (.mk hquad) (fun low' afterLow h' => ?_) hrest
          cases h' with
          | mk hlow' =>
            obtain rfl : low = low' := Option.some.inj (hlow.symm.trans hlow')
            exact hnone
  · rename_i hother
    cases h
    refine .numbered (.mk hquad) (fun low afterLow hlow => ?_) hrest
    cases hlow
    exact absurd rfl (hother _ _ _ _ _)

theorem numericEscape_sound {text after rest : List Char} {p : CodePoint} {t : Text}
    (hu : text.head? = some 'u') (h : Scanner.Reads numericEscape text p after)
    (hrest : Characters after t rest) : Characters ('\\' :: text) (p :: t) rest := by
  obtain ⟨found, hfound, rfl, rfl⟩ := Scanner.reads_iff.mp h
  rw [numericEscape.eq_def] at hfound
  split at hfound
  · rename_i u a b c d next
    obtain rfl : u = 'u' := by simpa using hu
    split at hfound
    · cases hfound
    · split at hfound
      · cases hfound
      · rename_i p hquad
        split at hfound
        · cases hfound
        · rename_i q after hcompleted
          cases hfound
          exact .of_completed hquad hcompleted hrest
  · cases hfound

theorem numericEscape_of_completed {a b c d : Char} {p q : CodePoint} {text after : List Char}
    (hquad : quad? a b c d = some p) (hne : text ≠ []) (h : completed p text = .ok (q, after)) :
    Scanner.Reads numericEscape ('u' :: a :: b :: c :: d :: text) q after := by
  rw [Scanner.reads_iff, numericEscape]
  simp only [List.isEmpty_iff, hne, if_false, hquad]
  split
  · rename_i hcompleted
    rw [h] at hcompleted
    cases hcompleted
  · rename_i hcompleted
    rw [h] at hcompleted
    cases hcompleted
    exact ⟨_, rfl, rfl, rfl⟩

/-! ## Strings -/

theorem stringBody_sound {opening text rest : List Char} {done t : Text}
    (h : stringBody opening done text = .ok (t, rest)) :
    ∃ u, t = done.reverse ++ u ∧ Characters text u rest := by
  fun_induction stringBody opening done text with
  | case1 => cases h
  | case2 done rest =>
    cases h
    exact ⟨[], by simp, .close⟩
  | case3 => cases h
  | case4 => cases h
  | case5 done after _ found hfound ih =>
    obtain ⟨u, rfl, hu⟩ := ih h
    have hread : Scanner.Reads numericEscape ('u' :: after) found.value found.rest :=
      Scanner.reads_of_eq hfound
    exact ⟨found.value :: u, by simp, numericEscape_sound rfl hread hu⟩
  | case6 => cases h
  | case7 done e after _ p hescape _ ih =>
    obtain ⟨u, rfl, hu⟩ := ih h
    exact ⟨.ofChar p :: u, by simp, .letter ((letterEscape?_eq_some_iff e p).mp hescape) hu⟩
  | case8 => cases h
  | case9 done c rest hquote hbackslash hcontrol ih =>
    obtain ⟨u, rfl, hu⟩ := ih h
    exact ⟨.ofChar c :: u, by simp, .plain hquote hbackslash (Nat.not_lt.mp hcontrol) hu⟩

theorem stringBody_complete {text rest : List Char} {u : Text} (h : Characters text u rest)
    (opening : List Char) (done : Text) :
    stringBody opening done text = .ok (done.reverse ++ u, rest) := by
  induction h generalizing done with
  | close => simp [stringBody.eq_def]
  | plain hquote hbackslash hcontrol _ ih =>
    rw [stringBody.eq_def]
    simp only
    rw [if_neg hquote, if_neg hbackslash, if_neg (Nat.not_lt.mpr hcontrol), ih]
    simp
  | @letter e c text rest t hmem _ ih =>
    have hu : e ≠ 'u' := by
      rintro rfl
      simp [letterEscapes] at hmem
    simp [stringBody.eq_def opening done, hu, (letterEscape?_eq_some_iff e c).mpr hmem, ih]
  | @pair text afterHigh afterLow rest high low p t first second hjoined inside ih =>
    cases first with
    | mk hquad =>
      obtain ⟨shorter, hread⟩ := numericEscape_of_completed hquad (by cases second; simp)
        (completed_of_pair second hjoined inside)
      simp [stringBody.eq_def opening done, hread, ih]
  | @numbered text after rest p t escape alone inside ih =>
    cases escape with
    | mk hquad =>
      obtain ⟨shorter, hread⟩ := numericEscape_of_completed hquad inside.ne_nil
        (completed_of_alone alone inside)
      simp [stringBody.eq_def opening done, hread, ih]

theorem string_sound {text rest : List Char} {t : Text} (h : Scanner.Reads string text t rest) :
    ∃ body, text = '"' :: body ∧ Characters body t rest := by
  obtain ⟨found, hfound, rfl, rfl⟩ := Scanner.reads_iff.mp h
  rw [string.eq_def] at hfound
  split at hfound
  · rename_i body
    split at hfound
    · cases hfound
    · rename_i hbody
      cases hfound
      obtain ⟨u, rfl, hu⟩ := stringBody_sound hbody
      exact ⟨body, rfl, hu⟩
  · cases hfound

theorem string_complete {body rest : List Char} {t : Text} (h : Characters body t rest) :
    Scanner.Reads string ('"' :: body) t rest := by
  have hbody : stringBody ('"' :: body) [] body = .ok (t, rest) := stringBody_complete h _ []
  rw [Scanner.reads_iff, string]
  split
  · rename_i herror
    rw [hbody] at herror
    cases herror
  · rename_i hok
    rw [hbody] at hok
    cases hok
    exact ⟨_, rfl, rfl, rfl⟩

end Json

end DigestRecord
