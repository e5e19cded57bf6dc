import Ngh2.Nghttp2

/-!
# Translating engine codes into exceptions

Three functions of the module's end: the diagnostic text, the exception of a
code, and the exception recorded for a frame whose preparation failed after
its submission was accepted. The last one differs from the second in that it
must be an `NGH2Error`, since it is published in an event rather than raised.
-/

namespace Ngh2

open Nghttp2

/-- `_error_message`: the native diagnostic without its numeric code. -/
def errorMessage (host : Host) (code : Int) : String :=
  "HTTP/2 engine error: " ++ host.strerror code

/-- `_nghttp2_error`: the public exception of an engine code. -/
def nghttp2Error (host : Host) (code : Int) : PyError :=
  let message := errorMessage host code
  if code = errNomem then .memoryError "HTTP/2 engine ran out of memory"
  else if code = errStreamIdNotAvailable then .ngh2 .noAvailableStreamID message
  else if code = errInvalidStreamId ∨ code = errStreamClosed ∨ code = errStreamClosing
      ∨ code = errStreamShutWr then .ngh2 .streamUnavailable message
  else if code = errPushDisabled then .ngh2 .pushDisabled message
  else if code = errStartStreamNotAllowed ∨ code = errSessionClosing then
    .ngh2 .connectionClosing message
  else if code = errDataExist then .ngh2 .streamState message
  else if code = errBadClientMagic then .ngh2 .connectionProtocol message
  else if code = errFlooded ∨ code = errTooManyContinuations then
    .ngh2 .denialOfService message
  else if code = errInvalidArgument then .valueError message
  else if code = errTooManySettings then .valueError message
  else .ngh2 .internal message

/-- `_frame_not_sent_error`: the exception recorded for a delayed frame
failure. -/
def frameNotSentError (host : Host) (code : Int) : PyError :=
  if code = errFrameSizeError then
    .ngh2 .streamProtocol "outbound header block exceeds max_send_header_block_length"
  else if code = errProto ∨ code = errInvalidStreamState then
    .ngh2 .streamProtocol (errorMessage host code)
  else
    let error := nghttp2Error host code
    if error.isNGH2Error then error else .ngh2 .internal error.message

/-- **A delayed failure is always recorded as an `NGH2Error`**: the built-in
exceptions of `nghttp2Error` are wrapped. -/
theorem frameNotSentError_isNGH2Error (host : Host) (code : Int) :
    (frameNotSentError host code).isNGH2Error = true := by
  unfold frameNotSentError
  split
  · rfl
  · split
    · rfl
    · dsimp only
      split
      · assumption
      · rfl

end Ngh2
