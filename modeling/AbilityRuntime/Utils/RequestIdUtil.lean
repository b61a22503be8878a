import Mathlib.Data.Int.Init

set_option autoImplicit false

namespace AbilityRuntime.RequestIdUtil

def INT32_MAX : Int := 2147483647

/-- The request id for a state of the counter, and the counter after it. -/
def getRequestId (requestId : Int) : Int × Int :=
  let requestId := if requestId = 0 || requestId = INT32_MAX then 1 else requestId
  (requestId, requestId + 1)

/-- The counter has not come to its end, where the next id would be 1 again. -/
theorem getRequestId_next {requestId : Int} (started : 0 < requestId)
    (room : requestId < INT32_MAX) : getRequestId requestId = (requestId, requestId + 1) := by
  unfold getRequestId
  rw [if_neg (by simp; omega)]

end AbilityRuntime.RequestIdUtil
