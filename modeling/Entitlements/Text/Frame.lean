/-!
# Framed texts

A message stands between fixed words. Messages are told apart by words of which neither
begins the other, or of which neither ends the other.
-/

namespace Entitlements.Text

variable {word other rest second : String}

theorem opening_inj (hforth : word.toList <+: other.toList → word = other)
    (hback : other.toList <+: word.toList → other = word)
    (h : word ++ rest = other ++ second) : word = other ∧ rest = second := by
  have hlists : word.toList ++ rest.toList = other.toList ++ second.toList := by
    simpa using congrArg String.toList h
  have hword : word = other := by
    have hother : other.toList <+: word.toList ++ rest.toList :=
      hlists ▸ List.prefix_append other.toList second.toList
    rcases List.prefix_or_prefix_of_prefix (List.prefix_append word.toList rest.toList) hother
      with hprefix | hprefix
    · exact hforth hprefix
    · exact (hback hprefix).symm
  subst hword
  exact ⟨rfl, String.ext (List.append_cancel_left hlists)⟩

theorem closing_inj (hforth : word.toList <:+ other.toList → word = other)
    (hback : other.toList <:+ word.toList → other = word)
    (h : rest ++ word = second ++ other) : rest = second ∧ word = other := by
  have hlists : rest.toList ++ word.toList = second.toList ++ other.toList := by
    simpa using congrArg String.toList h
  have hword : word = other := by
    have hother : other.toList <:+ rest.toList ++ word.toList :=
      hlists ▸ List.suffix_append second.toList other.toList
    rcases List.suffix_or_suffix_of_suffix (List.suffix_append rest.toList word.toList) hother
      with hsuffix | hsuffix
    · exact hforth hsuffix
    · exact (hback hsuffix).symm
  subst hword
  exact ⟨String.ext (List.append_cancel_right hlists), rfl⟩

end Entitlements.Text
