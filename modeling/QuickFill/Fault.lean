/-!
# Faults

The ways an operation on a page can fail, as causes, with the wording of each in
one place.
-/

namespace QuickFill

/-- The two kinds of quick-fill links, which are numbered apart. -/
inductive LinkKind where
  | clock
  | calendar
  deriving DecidableEq, Repr

def LinkKind.name : LinkKind → String
  | .clock => "clock"
  | .calendar => "calendar"

/-- Why a page refuses a change. -/
inductive PageFault where
  /-- The page in memory has no input with the number. -/
  | noInput (number : Nat)
  | strayInput
  /-- The page in memory has no calendar box with the id. -/
  | noBox (id : String)
  | noParent
  | noElement (id : String)
  | foreignElement (id : String)
  | exception (name : String)
  deriving DecidableEq, Repr

def PageFault.message : PageFault → String
  | .noInput number => "Không có input #" ++ toString number
  | .strayInput => "Input không còn trong container"
  | .noBox id => "Không tìm thấy phần tử #" ++ id
  | .noParent => "Input không có node cha"
  | .noElement id => "Không tìm thấy #" ++ id
  | .foreignElement id => "#" ++ id ++ " không phải HTMLElement"
  | .exception name => "JsValue(" ++ name ++ ")"

inductive Fault where
  | unknownHandle (kind : LinkKind) (handle : Nat)
  | alreadyRegistered (kind : LinkKind)
  | alreadyStarted
  | invalidHour (hour : Int)
  | invalidDate (year : Int) (month day : Nat)
  | dayOffsetOutOfRange (days : Int)
  | invalidTemplate (template : String)
  | page (cause : PageFault)
  /-- The clock, moved to the time of the server, leaves the supported range. -/
  | clockOutOfRange
  deriving DecidableEq, Repr

def Fault.message : Fault → String
  | .unknownHandle kind handle =>
    "Không có input " ++ kind.name ++ " nào ứng với handle " ++ toString handle
  | .alreadyRegistered kind => "Input đã nằm trong registry " ++ kind.name
  | .alreadyStarted => "Bộ lối tắt đã được khởi tạo cho trang này"
  | .invalidHour hour => "Giờ không hợp lệ: " ++ toString hour
  | .invalidDate year month day =>
    "Ngày không hợp lệ: " ++ toString year ++ "-" ++ toString month ++ "-" ++ toString day
  | .dayOffsetOutOfRange days => "Độ lệch ngày vượt phạm vi: " ++ toString days
  | .invalidTemplate template => "Định dạng thời gian không hợp lệ: " ++ template
  | .page cause => "Lỗi thao tác giao diện: " ++ cause.message
  | .clockOutOfRange => "the clock moved to server time leaves the range of dates"

end QuickFill
