import ClusterCaps.Text.Scan

set_option autoImplicit false

namespace ClusterCaps.Statement

def version : String := "SELECT @@version"

def lowerCaseTableNames : String := "SELECT @@global.lower_case_table_names"

def nativeProcedures : String := "call dbms_admin.show_native_procedure()"

def rsaPublicKey : String := "SHOW STATUS LIKE 'Rsa_public_key'"

def mdlInstrument : String :=
  "select enabled,timed from performance_schema.setup_instruments WHERE NAME = 'wait/lock/metadata/sql/mdl'"

-- Asks which locks wait for which, and stops before it reads any row.
def mdlPrivilege : String :=
  "SELECT `pt`.`PROCESSLIST_ID` AS `waiting`, `gt`.`PROCESSLIST_ID` AS `blocking` FROM (((((`performance_schema`.`metadata_locks` `g` JOIN `performance_schema`.`metadata_locks` `p` ON ((`g`.`OBJECT_TYPE` = `p`.`OBJECT_TYPE`) AND (`g`.`OBJECT_SCHEMA` = `p`.`OBJECT_SCHEMA`) AND (`g`.`OBJECT_NAME` = `p`.`OBJECT_NAME`) AND (`g`.`LOCK_STATUS` = 'GRANTED') AND (`p`.`LOCK_STATUS` = 'PENDING'))) JOIN `performance_schema`.`threads` `gt` ON ((`g`.`OWNER_THREAD_ID` = `gt`.`THREAD_ID`))) JOIN `performance_schema`.`threads` `pt` ON ((`p`.`OWNER_THREAD_ID` = `pt`.`THREAD_ID`))) LEFT JOIN `performance_schema`.`events_statements_current` `gs` ON ((`g`.`OWNER_THREAD_ID` = `gs`.`THREAD_ID`))) LEFT JOIN `performance_schema`.`events_statements_current` `ps` ON ((`p`.`OWNER_THREAD_ID` = `ps`.`THREAD_ID`))) WHERE (`g`.`OBJECT_TYPE` = 'TABLE') AND `pt`.`PROCESSLIST_ID` != `gt`.`PROCESSLIST_ID` AND FALSE"

def fixed : List (String × String) :=
  [("$VERSION", version), ("$LOWER_CASE", lowerCaseTableNames), ("$PROCEDURES", nativeProcedures),
    ("$RSA", rsaPublicKey), ("$MDL_INSTRUMENT", mdlInstrument), ("$MDL_PRIVILEGE", mdlPrivilege)]

def commitSequence : String := "innodb_commit_seq"
def heartbeatSequence : String := "innodb_heartbeat_seq"
def commitTimestamps : String := "innodb_cts_transaction"
def transactionGroup : String := "innodb_transaction_group"
def xengineDirectory : String := "xengine_datadir"
def performanceSchema : String := "performance_schema"

def showVariable (name : String) : String := "SHOW VARIABLES LIKE '" ++ name ++ "'"

def selectPlugin (name : String) : String :=
  "select PLUGIN_VERSION, PLUGIN_STATUS from information_schema.plugins where PLUGIN_NAME='" ++
    name ++ "'"

def target? (mark statement : String) : Option String :=
  ((Text.after? mark.toList statement.toList).bind (Text.upTo? '\'')).map String.ofList

def likeTarget? (statement : String) : Option String := target? "LIKE '" statement

def pluginTarget? (statement : String) : Option String := target? "PLUGIN_NAME='" statement

end ClusterCaps.Statement
