import MacConsent.Diagnostic

/-!
# MacConsent.Console

Notices and short messages as lines of text. Notices are printed when they are
put up, and kept until they are taken; a short message is marked by a guillemet
and printed apart.
-/

namespace MacConsent.Console

/-- The line of a notice. -/
def noticeLine (n : Notification) : String := "[" ++ n.title ++ "] " ++ n.body

/-- The line of a short message. -/
def toastLine (message : String) : String := "» " ++ message

/-- Puts up a notice: the board afterwards, the line to print and what the observer is told. -/
def post (b : NoticeBoard) (number : UInt32) (n : Notification) :
    NoticeBoard × String × List Diagnostic :=
  (b.post number n, noticeLine n,
    if (b.find? number).isSome then [.noticeReplaced number] else [])

/-- Takes a notice off the board, as a tap does. -/
def take (b : NoticeBoard) (number : UInt32) : Option Notification × NoticeBoard :=
  (b.find? number, b.remove number)

end MacConsent.Console
