import Turnstile.Cache.Attempts
import Turnstile.Proofs.Json.Shape
import Turnstile.Proofs.Time.Text

/-!
Records of failed logins as text. What is kept for a user stands under a key that no other user has,
and the text of a record stands for that record.
-/

namespace Turnstile

namespace LoginAttempt

/-- The record with its names, as it is written. -/
def fields (a : LoginAttempt) : List (String × Json) :=
  [("attempt", .int a.count), ("block_time", .str a.blockedUntil.toText),
    ("refresh_time", .str a.dropAt.toText)]

/-- The count is a number of 32 bits, and the dates are written with four digits for the year. -/
structure Writable (a : LoginAttempt) : Prop where
  count : a.count ≤ 4294967295
  blockedUntil : a.blockedUntil.Written
  dropAt : a.dropAt.Written

/-- A record that was written is read back. -/
theorem ofText?_text {a : LoginAttempt} (h : a.Writable) : ofText? a.text = some a := by
  have hblocked := Instant.ofText?_toText h.blockedUntil
  have hdrop := Instant.ofText?_toText h.dropAt
  -- The text is what the shape of a record asks for, and its fields are those of the record.
  have hread : shape.read a.text = .ok (.obj a.fields) := by
    refine Shape.read_record ⟨?_, ?_, ?_⟩ rfl
    · change ["attempt", "block_time", "refresh_time"].Nodup
      decide
    · intro f hf
      simp only [List.mem_cons, List.not_mem_nil, or_false] at hf
      rcases hf with rfl | rfl | rfl
      · exact (Shape.takes_uint32 h.count).plain
      · exact .str _
      · exact .str _
    · intro f hf m hm
      simp only [List.mem_cons, List.not_mem_nil, or_false] at hf
      rcases hf with rfl | rfl | rfl
      all_goals
        cases hm
        refine ⟨?_, by decide⟩
      · exact Shape.takes_uint32 h.count
      · exact .time (Option.isSome_of_eq_some hblocked)
      · exact .time (Option.isSome_of_eq_some hdrop)
  have hrecord : ofJson? (.obj a.fields) = some a := by
    have hcount : (Json.obj a.fields).get? "attempt" = some (.int a.count) := rfl
    have hfirst : (Json.obj a.fields).get? "block_time" = some (.str a.blockedUntil.toText) := rfl
    have hlast : (Json.obj a.fields).get? "refresh_time" = some (.str a.dropAt.toText) := rfl
    unfold ofJson?
    simp only [hcount, hfirst, hlast, Option.bind_eq_bind, Option.bind_some, Json.asInt?,
      Json.asText?, hblocked, hdrop]
    rfl
  unfold ofText?
  rw [hread]
  exact hrecord

end LoginAttempt

/-- No two users have the same key. -/
theorem CacheLink.attemptKey_injective : Function.Injective attemptKey := by
  intro a b h
  have htexts := congrArg String.toList h
  unfold attemptKey at htexts
  rw [String.toList_append, String.toList_append] at htexts
  exact Text.toString_injective (String.toList_inj.mp (List.append_cancel_left htexts))

end Turnstile
