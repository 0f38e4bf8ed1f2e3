import Lexicon.Proofs.Text.Quoting

/-!
# The words around a text

A sentence about a text puts words of its own before it and behind it.  Which words these are can be
told from the sentence, whatever the text is, if no word of the list that they come from begins
another, or ends another (`PrefixFree.append_inj`, `SuffixFree.append_inj`); and what was quoted can
be told from what follows it (`append_inj_of_quote`).  A sentence that is taken apart in such steps
means one thing.

## Main definitions

* `PrefixFree`, `SuffixFree` — lists of words of which none begins, or ends, another.
-/

namespace Lexicon.Text

variable {words : List String} {s t u v x y : String}

/-- No word of the list begins another one. -/
def PrefixFree (words : List String) : Prop :=
  ∀ u ∈ words, ∀ v ∈ words, u.toList <+: v.toList → u = v

/-- No word of the list ends another one. -/
def SuffixFree (words : List String) : Prop :=
  ∀ u ∈ words, ∀ v ∈ words, u.toList <:+ v.toList → u = v

instance : Decidable (PrefixFree words) :=
  inferInstanceAs (Decidable (∀ u ∈ words, ∀ v ∈ words, u.toList <+: v.toList → u = v))

instance : Decidable (SuffixFree words) :=
  inferInstanceAs (Decidable (∀ u ∈ words, ∀ v ∈ words, u.toList <:+ v.toList → u = v))

/-- The word before a text can be told from what is written. -/
theorem PrefixFree.append_inj (free : PrefixFree words) (hu : u ∈ words) (hv : v ∈ words)
    (h : u ++ x = v ++ y) : u = v ∧ x = y := by
  have written : u.toList ++ x.toList = v.toList ++ y.toList := by
    rw [← String.toList_append, h, String.toList_append]
  have begins : u.toList <+: v.toList ∨ v.toList <+: u.toList :=
    List.prefix_or_prefix_of_prefix (List.prefix_append _ x.toList)
      (written ▸ List.prefix_append _ y.toList)
  have same : u = v := by
    rcases begins with before | before
    · exact free u hu v hv before
    · exact (free v hv u hu before).symm
  subst same
  exact ⟨rfl, (String.append_right_inj u).1 h⟩

/-- The word behind a text can be told from what is written. -/
theorem SuffixFree.append_inj (free : SuffixFree words) (hu : u ∈ words) (hv : v ∈ words)
    (h : x ++ u = y ++ v) : x = y ∧ u = v := by
  have written : x.toList ++ u.toList = y.toList ++ v.toList := by
    rw [← String.toList_append, h, String.toList_append]
  have ends : u.toList <:+ v.toList ∨ v.toList <:+ u.toList :=
    List.suffix_or_suffix_of_suffix (List.suffix_append x.toList _)
      (written ▸ List.suffix_append y.toList _)
  have same : u = v := by
    rcases ends with behind | behind
    · exact free u hu v hv behind
    · exact (free v hv u hu behind).symm
  subst same
  exact ⟨(String.append_left_inj u).1 h, rfl⟩

/-- What was quoted can be told from what follows it. -/
theorem append_inj_of_quote (h : quote s ++ x = quote t ++ y) : s = t ∧ x = y := by
  have written : (quote s).toList ++ x.toList = (quote t).toList ++ y.toList := by
    rw [← String.toList_append, h, String.toList_append]
  obtain ⟨same, rest⟩ := quote_append_inj written
  exact ⟨same, String.toList_inj.1 rest⟩

/-- Two quoted fields can be told from what is written. -/
theorem quotes_inj_of_braced {a b s' t' : String}
    (h : braced [(a, quote s), (b, quote t)] = braced [(a, quote s'), (b, quote t')]) :
    s = s' ∧ t = t' := by
  rw [braced_pair, braced_pair] at h
  simp only [String.append_assoc, String.append_right_inj] at h
  obtain ⟨firsts, rest⟩ := append_inj_of_quote h
  simp only [String.append_right_inj] at rest
  exact ⟨firsts, (append_inj_of_quote rest).1⟩

end Lexicon.Text
