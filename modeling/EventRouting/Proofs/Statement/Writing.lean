import EventRouting.Proofs.Statement.RoundTrip

set_option autoImplicit false

namespace EventRouting

namespace Pointer

theorem consFirst_ne_nil (c : Char) (segments : List (List Char)) :
    consFirst c segments ≠ [] := by
  cases segments <;> simp [consFirst]

theorem splitSlashes_ne_nil (cs : List Char) : splitSlashes cs ≠ [] := by
  cases cs with
  | nil => simp [splitSlashes]
  | cons c rest =>
    rw [splitSlashes]
    split
    · simp
    · exact consFirst_ne_nil c _

theorem splitEscaped_ne_nil (cs : List Char) : splitEscaped cs ≠ [] := by
  unfold splitEscaped
  split
  · simp
  · simp
  · simp
  · split <;> exact consFirst_ne_nil _ _
  · exact consFirst_ne_nil _ _

theorem segments_ne_nil_of_ofEscaped {text : List Char} {p : Pointer}
    (h : ofEscaped text = .ok p) : p.segments ≠ [] := by
  unfold ofEscaped at h
  split at h
  · cases h
    simp [splitEscaped_ne_nil]
  · cases h

end Pointer

namespace Scan

theorem symbol?_writable {c : Char} {cs : List Char} {t : Token} {n : Nat}
    (h : symbol? c cs = some (t, n)) : t.Writable := by
  unfold symbol? at h
  split at h <;> cases h <;> trivial

theorem quotedToken_writable (body : List Char) : (quotedToken body).Writable := by
  unfold quotedToken
  split
  · rename_i p hp
    exact Pointer.segments_ne_nil_of_ofEscaped hp
  · trivial

theorem numberToken?_writable {l : Decimal.Literal} {t : Token} (h : numberToken? l = some t) :
    t.Writable := by
  unfold numberToken? at h
  split at h
  · obtain ⟨n, -, rfl⟩ := Option.map_eq_some_iff.1 h
    trivial
  · split at h
    · rename_i hfinite
      cases h
      exact hfinite
    · cases h

theorem wordToken_writable (word : List Char) :
    (wordToken word).Writable ∨ ∃ text, wordToken word = .invalid text := by
  unfold wordToken
  split
  case h_8 => exact .inr ⟨_, rfl⟩
  all_goals exact .inl trivial

theorem token_writable {p : Position} {c : Char} {cs : List Char} {t : Token}
    (h : (token p c cs).result = .ok t) : t.Writable ∨ ∃ text, t = .invalid text := by
  unfold token at h
  split at h
  · rename_i hsymbol
    cases h
    exact .inl (symbol?_writable hsymbol)
  · split at h
    · cases h
      refine .inl ?_
      simp [Token.Writable, Pointer.ofBare, Pointer.splitSlashes_ne_nil]
    · split at h
      · unfold quoted at h
        split at h
        · cases h
          exact .inl (quotedToken_writable _)
        · cases h
      · split at h
        · unfold number at h
          split at h
          · rename_i hnumber
            cases h
            exact .inl (numberToken?_writable hnumber)
          · cases h
        · split at h
          · cases h
            exact wordToken_writable _
          · cases h
            exact .inr ⟨_, rfl⟩

end Scan

namespace Source

theorem step?_writable {s s' : Source} {t : Placed} (h : s.step? = some (.ok t, s')) :
    t.token.Writable ∨ ∃ text, t.token = .invalid text := by
  obtain ⟨c, cs, -, hresult, -⟩ := step?_eq_ok h
  exact Scan.token_writable hresult

/-- Induction along the tokens of a text that is scanned without a fault. -/
theorem tokens_induction {motive : Source → List Placed → Prop}
    (done : ∀ s, s.step? = none → motive s [s.endToken])
    (more : ∀ s t s' others, s.step? = some (.ok t, s') → t.token.Writable →
      motive s' others → motive s (t :: others))
    {s : Source} {placed : List Placed} (h : s.tokens = .ok placed) : motive s placed := by
  induction s using Source.tokens.induct generalizing placed with
  | case1 s hstep =>
    rw [tokens_eq, hstep] at h
    cases h
    exact done s hstep
  | case2 s e s' hstep =>
    rw [tokens_eq, hstep] at h
    cases h
  | case3 s t s' hstep text ht =>
    rw [tokens_eq, hstep] at h
    simp only [ht] at h
    cases h
  | case4 s t s' hstep hvalid ih =>
    have hwritable : t.token.Writable := by
      refine (step?_writable hstep).resolve_right ?_
      rintro ⟨text, htext⟩
      exact hvalid text htext
    rw [tokens_eq, hstep] at h
    have hmore : s'.tokens.map (t :: ·) = .ok placed := by
      simpa only [hvalid] using h
    cases hrest : s'.tokens with
    | error e =>
      rw [hrest] at hmore
      cases hmore
    | ok others =>
      rw [hrest] at hmore
      cases hmore
      exact more s t s' others hstep hwritable (ih hrest)

theorem tokens_writable {s : Source} {placed : List Placed} (h : s.tokens = .ok placed) :
    ∀ t ∈ placed, t.token.Writable ∨ t.token = .eof := by
  refine tokens_induction
    (motive := fun _ placed => ∀ t ∈ placed, t.token.Writable ∨ t.token = .eof) ?done ?more h
  case done =>
    intro s _
    simp [endToken]
  case more =>
    intro s t s' others _ hwritable ih u hu
    rcases List.mem_cons.1 hu with rfl | hu
    · exact .inl hwritable
    · exact ih u hu

end Source

mutual

theorem Derives.writable {level : Level} {d p : Nat} {ts : List Token} {e : Expr} :
    Derives level d ts e p → (∀ t ∈ ts, t.Writable) → e.Writable
  | .chain first more, h => by
    have hfirst := first.writable fun t ht => h t (List.mem_append_left _ ht)
    exact more.writable hfirst fun t ht => h t (List.mem_append_right _ ht)
  | .negation operand, h => operand.writable fun t ht => h t (List.mem_cons_of_mem _ ht)
  | .plain inner, h => inner.writable h
  | .leaf (t := t) ht, h => by
    have hwritable := h t (List.mem_singleton_self t)
    cases t <;> cases ht <;> exact hwritable
  | .emptyList, _ => trivial
  | .list items, h => items.writable fun t ht => h t (by simp [ht])
  | .parens inner, h => inner.writable fun t ht => h t (by simp [ht])

theorem Continues.writable {c : Chain} {d p : Nat} {ts : List Token} {left e : Expr} :
    Continues c d left ts e p → left.Writable → (∀ t ∈ ts, t.Writable) → e.Writable
  | .stop, hleft, _ => hleft
  | .more _ right more, hleft, h => by
    have hright := right.writable fun t ht => h t (by simp [ht])
    exact more.writable ⟨hleft, hright⟩ fun t ht => h t (by simp [ht])

theorem DerivesItems.writable {d p : Nat} {ts : List Token} {es : List Expr} :
    DerivesItems d ts es p → (∀ t ∈ ts, t.Writable) → Expr.AllWritable es
  | .one item, h => ⟨item.writable h, trivial⟩
  | .more item items, h => by
    have hitem := item.writable fun t ht => h t (by simp [ht])
    exact ⟨hitem, items.writable fun t ht => h t (by simp [ht])⟩

end

theorem Statement.writable_of_compile {text : String} {s : Statement}
    (h : compile text = .ok s) : s.expr.Writable := by
  obtain ⟨placed, peak, htokenize, -, hderives⟩ := derives_of_compile h
  refine Derives.writable hderives ?_
  intro t ht
  have hne : t ≠ .eof := by
    rintro rfl
    exact hderives.eof_notMem ht
  obtain ⟨u, hu, rfl⟩ := List.mem_map.1 ((List.takeWhile_sublist _).mem ht)
  exact (Source.tokens_writable htokenize u hu).resolve_right hne

end EventRouting
