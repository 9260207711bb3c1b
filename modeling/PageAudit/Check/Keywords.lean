/-!
The words that give a page away, in the two languages of the applications under test. All of them are
in lower case.
-/

namespace PageAudit.Check

def errorKeywords : List String :=
  ["error", "failed", "exception", "warning", "404", "500", "not found", "internal server error",
    "错误", "失败", "异常", "警告", "出错", "无法访问"]

def successKeywords : List String :=
  ["success", "saved", "created", "updated", "deleted", "completed",
    "成功", "已保存", "已创建", "已更新", "已删除", "完成"]

end PageAudit.Check
