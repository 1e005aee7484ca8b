import Mathlib.Data.List.Basic
import Turnstile.Http.Message
import Turnstile.Proofs.Encoding
import Turnstile.Proofs.Json.Shape

/-!
What the answer to a failed request discloses. The answer is read as callers get it, from its
bytes. It tells the code of the error, for some errors one text that callers may know, and nothing
else: errors that differ only in what is kept for operators have the same answer.
-/

namespace Turnstile

/-! ### Reading an answer -/

/-- What goes over the network. -/
def Body.bytes : Body → Bytes
  | .empty => []
  | .json j => utf8 j.chars
  | .text s => utf8 s.toList

/-- The text beside code and message. -/
def ApiError.details? : ApiError → Option String
  | .validation fields => some (FieldError.text fields)
  | _ => none

/-- What the body of an answer to a failed request says. -/
structure ErrorAnswer where
  code : String
  message : String
  details : Option String
  deriving DecidableEq, Repr

namespace ErrorAnswer

def shape : Shape :=
  .record [("code", .text, false), ("error", .text, false), ("details", .text, true)]

/-- Read the bytes of an answer. -/
def ofBytes? (bs : Bytes) : Option ErrorAnswer := do
  let text ← ofUtf8? bs
  let j ← (shape.read text).toOption
  let code ← (j.get? "code").bind Json.asText?
  let message ← (j.get? "error").bind Json.asText?
  return ⟨code, message, (j.get? "details").bind Json.asText?⟩

theorem ofBytes?_of_read {j : Json} {a : ErrorAnswer} (hread : shape.read j.text = .ok j)
    (hcode : j.get? "code" = some (.str a.code)) (herror : j.get? "error" = some (.str a.message))
    (hdetails : j.get? "details" = a.details.map .str) : ofBytes? (Body.json j).bytes = some a := by
  have htext : ofUtf8? (utf8 j.chars) = some j.text := ofUtf8?_utf8 j.chars
  have hlast : (j.get? "details").bind Json.asText? = a.details := by
    rw [hdetails]
    cases a.details <;> rfl
  unfold ofBytes? Body.bytes
  simp only [htext, hread, hcode, herror, hlast, Except.toOption, Option.bind_eq_bind,
    Option.bind_some, Json.asText?]
  rfl

/-- The answer to a failed request says code, message and details of the error. -/
theorem ofBytes?_response (e : ApiError) :
    ofBytes? e.response.body.bytes = some ⟨e.code, e.publicMessage, e.details?⟩ := by
  have hshort : shape.read
      (Json.obj [("code", .str e.code), ("error", .str e.publicMessage)]).text =
      .ok (.obj [("code", .str e.code), ("error", .str e.publicMessage)]) := by
    refine Shape.read_record ⟨?_, ?_, ?_⟩ rfl
    · change ["code", "error"].Nodup
      decide
    · intro f hf
      rcases List.mem_pair.mp hf with rfl | rfl <;> exact .str _
    · intro f hf m hm
      rcases List.mem_pair.mp hf with rfl | rfl <;> cases hm <;> exact ⟨.text _, by decide⟩
  cases e with
  | validation fields =>
    refine ofBytes?_of_read ?_ rfl rfl rfl
    refine Shape.read_record ⟨?_, ?_, ?_⟩ rfl
    · change ["code", "error", "details"].Nodup
      decide
    · intro f hf
      simp only [List.cons_append, List.nil_append, List.mem_cons, List.not_mem_nil, or_false] at hf
      rcases hf with rfl | rfl | rfl <;> exact .str _
    · intro f hf m hm
      simp only [List.cons_append, List.nil_append, List.mem_cons, List.not_mem_nil, or_false] at hf
      rcases hf with rfl | rfl | rfl <;> cases hm <;> exact ⟨.text _, by decide⟩
  | badRequest => exact ofBytes?_of_read hshort rfl rfl rfl
  | unauthorized => exact ofBytes?_of_read hshort rfl rfl rfl
  | forbidden => exact ofBytes?_of_read hshort rfl rfl rfl
  | internal => exact ofBytes?_of_read hshort rfl rfl rfl
  | configuration => exact ofBytes?_of_read hshort rfl rfl rfl

/-! ### What is shown -/

/-- The text that stands between two others. -/
def between (front back text : String) : String :=
  String.ofList ((text.toList.drop front.toList.length).take
    (text.toList.length - front.toList.length - back.toList.length))

theorem between_append (front s back : String) : between front back (front ++ s ++ back) = s := by
  have hlength : front.toList.length + (s.toList.length + back.toList.length) -
      front.toList.length - back.toList.length = s.toList.length := by omega
  rw [between, String.toList_append, String.toList_append, List.append_assoc, List.drop_left,
    List.length_append, List.length_append, hlength, List.take_left, String.ofList_toList]

/-- The text that was put into an answer, by its code. -/
def shown (a : ErrorAnswer) : Option String :=
  match a.code with
  | "VALIDATION_ERROR" => a.details
  | "LOGIN_LOCKED" =>
    some (between "Too many login attempts, your account is locked until " "" a.message)
  | "ACCESS_DENIED" => some (between "Not authorized to access " "" a.message)
  | "NOT_FOUND" => some (between "" " not found" a.message)
  | "INVALID_REFERENCE" => some a.message
  | _ => none

end ErrorAnswer

namespace ServiceError

/-- What callers may know of an error besides its code. -/
def shown : ServiceError → Option String
  | .validation fields => some (FieldError.text fields)
  | .loginLocked lockedUntil => some lockedUntil.toSecondsText
  | .accessDenied _ elementId => some elementId
  | .notFound entity => some entity
  | .invalidReference reason => some reason
  | _ => none

/-- The answer to an error, as it is read. -/
def answer (e : ServiceError) : ErrorAnswer :=
  ⟨e.toApi.code, e.toApi.publicMessage, e.toApi.details?⟩

theorem answer_code (e : ServiceError) : e.answer.code = e.code := by cases e <;> rfl

theorem answer_shown (e : ServiceError) : e.answer.shown = e.shown := by
  have hstart (front s : String) : ErrorAnswer.between front "" (front ++ s) = s := by
    have h := ErrorAnswer.between_append front s ""
    rwa [String.append_empty] at h
  have hend (s back : String) : ErrorAnswer.between "" back (s ++ back) = s := by
    have h := ErrorAnswer.between_append "" s back
    rwa [String.empty_append] at h
  cases e with
  | loginLocked lockedUntil => exact congrArg some (hstart _ _)
  | accessDenied userId elementId => exact congrArg some (hstart _ _)
  | notFound entity => exact congrArg some (hend _ _)
  | _ => rfl

/-- Two errors of one kind that differ in what is kept for operators. A session that is not there
and one whose user is not there are of one kind. -/
inductive Alike : ServiceError → ServiceError → Prop
  | refl (e : ServiceError) : Alike e e
  | database (cause cause' : DatabaseError) : Alike (.database cause) (.database cause')
  | cache (cause cause' : CacheError) : Alike (.cache cause) (.cache cause')
  | internal (cause cause' : String) : Alike (.internal cause) (.internal cause')
  | invalidToken (reason reason' : String) : Alike (.invalidToken reason) (.invalidToken reason')
  | sessionMismatch (id id' : String) : Alike (.sessionMismatch id) (.sessionMismatch id')
  | userNotFound (id id' : Int) : Alike (.userNotFound id) (.userNotFound id')
  | sessionUserNotFound (id id' : Int) : Alike (.sessionUserNotFound id) (.sessionUserNotFound id')
  | sessionGone (id : Int) : Alike .sessionNotFound (.sessionUserNotFound id)
  | maxAttemptsReached (id id' : Int) : Alike (.maxAttemptsReached id) (.maxAttemptsReached id')
  | roleNotAssigned (id id' : Int) : Alike (.roleNotAssigned id) (.roleNotAssigned id')
  | accessDenied (id id' : Int) (elementId : String) :
      Alike (.accessDenied id elementId) (.accessDenied id' elementId)
  | invalidElementId (text text' : String) :
      Alike (.invalidElementId text) (.invalidElementId text')
  | invalidPolicy (reason reason' : String) : Alike (.invalidPolicy reason) (.invalidPolicy reason')

theorem Alike.response_eq {e e' : ServiceError} (h : e.Alike e') :
    e.toApi.response = e'.toApi.response := by
  cases h <;> rfl

/-- Every failure of the service itself is answered in the same way. -/
theorem response_of_status {e : ServiceError} (h : e.toApi.response.status = 500) (cause : String) :
    e.toApi.response = (ApiError.internal cause).response := by
  cases e <;> first | rfl | cases h

end ServiceError

/-- From the bytes of its answer callers read the code of an error and what is shown of it, with
the general message where the service itself failed. Errors that differ only in what is kept for
operators have the same answer, and errors with the same bytes have the same code and show the
same. -/
theorem error_discloses (e : ServiceError) :
    (∃ a, ErrorAnswer.ofBytes? e.toApi.response.body.bytes = some a ∧ a.code = e.code ∧
      a.shown = e.shown ∧
      (e.toApi.response.status = 500 → a.message = ApiError.genericMessage)) ∧
    ∀ e' : ServiceError,
      (e.Alike e' → e.toApi.response = e'.toApi.response) ∧
      (e.toApi.response.body.bytes = e'.toApi.response.body.bytes →
        e.code = e'.code ∧ e.shown = e'.shown) := by
  have hread (e : ServiceError) : ErrorAnswer.ofBytes? e.toApi.response.body.bytes =
      some e.answer := ErrorAnswer.ofBytes?_response e.toApi
  refine ⟨⟨e.answer, hread e, e.answer_code, e.answer_shown, fun hstatus => ?_⟩,
    fun e' => ⟨fun h => h.response_eq, fun h => ?_⟩⟩
  · have hsame := congrArg (fun r : Response => ErrorAnswer.ofBytes? r.body.bytes)
      (ServiceError.response_of_status hstatus "")
    rw [hread, ErrorAnswer.ofBytes?_response] at hsame
    exact congrArg ErrorAnswer.message (Option.some.inj hsame)
  · have hsame := hread e
    rw [h, hread e'] at hsame
    have hanswer : e'.answer = e.answer := Option.some.inj hsame
    exact ⟨by rw [← e.answer_code, ← e'.answer_code, hanswer],
      by rw [← e.answer_shown, ← e'.answer_shown, hanswer]⟩

/-- Neither the host of a database nor a missing row shows in an answer. -/
theorem database_cause_hidden :
    ServiceError.Alike (.database .noRow) (.database (.reported "57P01" "host db-1")) ∧
      (ServiceError.database .noRow).toApi.response =
        (ServiceError.database (.reported "57P01" "host db-1")).toApi.response ∧
      (ServiceError.database .noRow).toApi.response.status = 500 ∧
      ∃ a, ErrorAnswer.ofBytes? (ServiceError.database .noRow).toApi.response.body.bytes = some a ∧
        a.code = "INTERNAL_ERROR" ∧ a.message = ApiError.genericMessage := by
  have halike := ServiceError.Alike.database .noRow (.reported "57P01" "host db-1")
  obtain ⟨⟨a, hread, hcode, -, hmessage⟩, hothers⟩ := error_discloses (.database .noRow)
  exact ⟨halike, (hothers _).1 halike, rfl, a, hread, hcode, hmessage rfl⟩

end Turnstile
