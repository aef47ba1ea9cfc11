import TokenBank.Db.Bootstrap

/-!
# The shipped migrations

The migration files of the control-plane database, in the order in which they are applied.
-/

namespace TokenBank

namespace Migrations

/-- The tables of the control plane. -/
def init : Migration where
  version := "0001_init"
  statements := [
    .createTable "runs" true
      ⟨[⟨"run_id", "TEXT PRIMARY KEY"⟩, ⟨"status", "TEXT NOT NULL"⟩,
        ⟨"body_json", "TEXT NOT NULL"⟩, ⟨"created_at", "TEXT NOT NULL"⟩,
        ⟨"updated_at", "TEXT NOT NULL"⟩],
        []⟩,
    .createTable "work_units" true
      ⟨[⟨"work_unit_id", "TEXT PRIMARY KEY"⟩, ⟨"run_id", "TEXT NOT NULL"⟩,
        ⟨"status", "TEXT NOT NULL"⟩, ⟨"task_type", "TEXT NOT NULL"⟩,
        ⟨"task_level", "TEXT NOT NULL"⟩, ⟨"body_json", "TEXT NOT NULL"⟩,
        ⟨"created_at", "TEXT NOT NULL"⟩, ⟨"updated_at", "TEXT NOT NULL"⟩],
        [⟨"run_id", "runs", false⟩]⟩,
    .createTable "artifacts" true
      ⟨[⟨"artifact_id", "TEXT PRIMARY KEY"⟩, ⟨"body_json", "TEXT NOT NULL"⟩,
        ⟨"created_at", "TEXT NOT NULL"⟩],
        []⟩,
    .createTable "route_plans" true
      ⟨[⟨"route_plan_id", "TEXT PRIMARY KEY"⟩, ⟨"work_unit_id", "TEXT NOT NULL"⟩,
        ⟨"status", "TEXT NOT NULL"⟩, ⟨"body_json", "TEXT NOT NULL"⟩,
        ⟨"created_at", "TEXT NOT NULL"⟩],
        [⟨"work_unit_id", "work_units", false⟩]⟩,
    .createTable "route_plan_validations" true
      ⟨[⟨"validation_id", "TEXT PRIMARY KEY"⟩, ⟨"route_plan_id", "TEXT NOT NULL"⟩,
        ⟨"status", "TEXT NOT NULL"⟩, ⟨"body_json", "TEXT NOT NULL"⟩,
        ⟨"created_at", "TEXT NOT NULL"⟩],
        [⟨"route_plan_id", "route_plans", false⟩]⟩,
    .createTable "policy_decisions" true
      ⟨[⟨"policy_decision_id", "TEXT PRIMARY KEY"⟩, ⟨"work_unit_id", "TEXT NOT NULL"⟩,
        ⟨"route_plan_id", "TEXT NOT NULL"⟩, ⟨"decision", "TEXT NOT NULL"⟩,
        ⟨"body_json", "TEXT NOT NULL"⟩, ⟨"created_at", "TEXT NOT NULL"⟩],
        [⟨"work_unit_id", "work_units", false⟩, ⟨"route_plan_id", "route_plans", false⟩]⟩,
    .createTable "execution_attempts" true
      ⟨[⟨"attempt_id", "TEXT PRIMARY KEY"⟩, ⟨"work_unit_id", "TEXT NOT NULL"⟩,
        ⟨"route_plan_id", "TEXT NOT NULL"⟩, ⟨"policy_decision_id", "TEXT NOT NULL"⟩,
        ⟨"status", "TEXT NOT NULL"⟩, ⟨"body_json", "TEXT NOT NULL"⟩,
        ⟨"created_at", "TEXT NOT NULL"⟩],
        [⟨"work_unit_id", "work_units", false⟩, ⟨"route_plan_id", "route_plans", false⟩,
        ⟨"policy_decision_id", "policy_decisions", false⟩]⟩,
    .createTable "assignments" true
      ⟨[⟨"assignment_id", "TEXT PRIMARY KEY"⟩, ⟨"attempt_id", "TEXT NOT NULL"⟩,
        ⟨"work_unit_id", "TEXT NOT NULL"⟩, ⟨"worker_id", "TEXT NOT NULL"⟩,
        ⟨"status", "TEXT NOT NULL"⟩, ⟨"body_json", "TEXT NOT NULL"⟩,
        ⟨"created_at", "TEXT NOT NULL"⟩],
        [⟨"attempt_id", "execution_attempts", false⟩, ⟨"work_unit_id", "work_units", false⟩]⟩,
    .createTable "worker_manifests" true
      ⟨[⟨"worker_id", "TEXT PRIMARY KEY"⟩, ⟨"manifest_hash", "TEXT NOT NULL"⟩,
        ⟨"body_json", "TEXT NOT NULL"⟩, ⟨"created_at", "TEXT NOT NULL"⟩,
        ⟨"updated_at", "TEXT NOT NULL"⟩],
        []⟩,
    .createTable "worker_health_snapshots" true
      ⟨[⟨"snapshot_id", "TEXT PRIMARY KEY"⟩, ⟨"worker_id", "TEXT NOT NULL"⟩,
        ⟨"status", "TEXT NOT NULL"⟩, ⟨"body_json", "TEXT NOT NULL"⟩,
        ⟨"captured_at", "TEXT NOT NULL"⟩],
        [⟨"worker_id", "worker_manifests", false⟩]⟩,
    .createTable "backend_registry" true
      ⟨[⟨"backend_id", "TEXT PRIMARY KEY"⟩, ⟨"backend_class", "TEXT NOT NULL"⟩,
        ⟨"status", "TEXT NOT NULL"⟩, ⟨"body_json", "TEXT NOT NULL"⟩,
        ⟨"created_at", "TEXT NOT NULL"⟩, ⟨"updated_at", "TEXT NOT NULL"⟩],
        []⟩,
    .createTable "backend_manifests" true
      ⟨[⟨"backend_id", "TEXT PRIMARY KEY"⟩, ⟨"backend_class", "TEXT NOT NULL"⟩,
        ⟨"capacity_node_id", "TEXT NOT NULL"⟩, ⟨"manifest_hash", "TEXT NOT NULL"⟩,
        ⟨"body_json", "TEXT NOT NULL"⟩, ⟨"created_at", "TEXT NOT NULL"⟩,
        ⟨"updated_at", "TEXT NOT NULL"⟩],
        []⟩,
    .createTable "backend_health_snapshots" true
      ⟨[⟨"snapshot_id", "TEXT PRIMARY KEY"⟩, ⟨"backend_id", "TEXT NOT NULL"⟩,
        ⟨"status", "TEXT NOT NULL"⟩, ⟨"body_json", "TEXT NOT NULL"⟩,
        ⟨"captured_at", "TEXT NOT NULL"⟩],
        [⟨"backend_id", "backend_manifests", false⟩]⟩,
    .createTable "backend_usage_records" true
      ⟨[⟨"usage_record_id", "TEXT PRIMARY KEY"⟩, ⟨"work_unit_id", "TEXT NOT NULL"⟩,
        ⟨"attempt_id", "TEXT NOT NULL"⟩, ⟨"backend_id", "TEXT NOT NULL"⟩,
        ⟨"actual_cost_micros", "INTEGER NOT NULL DEFAULT 0"⟩, ⟨"body_json", "TEXT NOT NULL"⟩,
        ⟨"created_at", "TEXT NOT NULL"⟩],
        [⟨"work_unit_id", "work_units", false⟩, ⟨"backend_id", "backend_manifests", false⟩]⟩,
    .createTable "backend_execution_logs" true
      ⟨[⟨"log_id", "TEXT PRIMARY KEY"⟩, ⟨"attempt_id", "TEXT NOT NULL"⟩,
        ⟨"backend_id", "TEXT NOT NULL"⟩, ⟨"status", "TEXT NOT NULL"⟩,
        ⟨"body_json", "TEXT NOT NULL"⟩, ⟨"created_at", "TEXT NOT NULL"⟩],
        []⟩,
    .createTable "result_envelopes" true
      ⟨[⟨"result_envelope_id", "TEXT PRIMARY KEY"⟩, ⟨"work_unit_id", "TEXT NOT NULL"⟩,
        ⟨"attempt_id", "TEXT NOT NULL"⟩, ⟨"assignment_id", "TEXT NOT NULL"⟩,
        ⟨"status", "TEXT NOT NULL"⟩, ⟨"output_hash", "TEXT NOT NULL"⟩,
        ⟨"result_hash", "TEXT NOT NULL"⟩, ⟨"body_json", "TEXT NOT NULL"⟩,
        ⟨"created_at", "TEXT NOT NULL"⟩],
        [⟨"work_unit_id", "work_units", false⟩, ⟨"assignment_id", "assignments", false⟩]⟩,
    .createTable "verifier_reports" true
      ⟨[⟨"verifier_report_id", "TEXT PRIMARY KEY"⟩, ⟨"work_unit_id", "TEXT NOT NULL"⟩,
        ⟨"result_envelope_id", "TEXT NOT NULL"⟩, ⟨"status", "TEXT NOT NULL"⟩,
        ⟨"recommendation", "TEXT NOT NULL"⟩, ⟨"body_json", "TEXT NOT NULL"⟩,
        ⟨"created_at", "TEXT NOT NULL"⟩],
        [⟨"work_unit_id", "work_units", false⟩, ⟨"result_envelope_id", "result_envelopes", false⟩]⟩,
    .createTable "verifier_check_results" true
      ⟨[⟨"check_result_id", "TEXT PRIMARY KEY"⟩, ⟨"verifier_report_id", "TEXT NOT NULL"⟩,
        ⟨"status", "TEXT NOT NULL"⟩, ⟨"body_json", "TEXT NOT NULL"⟩,
        ⟨"created_at", "TEXT NOT NULL"⟩],
        [⟨"verifier_report_id", "verifier_reports", false⟩]⟩,
    .createTable "cost_quality_reports" true
      ⟨[⟨"cost_quality_report_id", "TEXT PRIMARY KEY"⟩, ⟨"run_id", "TEXT"⟩,
        ⟨"work_unit_id", "TEXT"⟩, ⟨"actual_cost_micros", "INTEGER NOT NULL DEFAULT 0"⟩,
        ⟨"body_json", "TEXT NOT NULL"⟩, ⟨"created_at", "TEXT NOT NULL"⟩],
        []⟩,
    .createTable "baseline_run_records" true
      ⟨[⟨"baseline_run_record_id", "TEXT PRIMARY KEY"⟩, ⟨"run_id", "TEXT NOT NULL"⟩,
        ⟨"body_json", "TEXT NOT NULL"⟩, ⟨"created_at", "TEXT NOT NULL"⟩],
        []⟩,
    .createTable "host_requests" true
      ⟨[⟨"host_request_id", "TEXT PRIMARY KEY"⟩, ⟨"run_id", "TEXT"⟩, ⟨"work_unit_id", "TEXT"⟩,
        ⟨"body_json", "TEXT NOT NULL"⟩, ⟨"created_at", "TEXT NOT NULL"⟩],
        []⟩,
    .createTable "host_result_summaries" true
      ⟨[⟨"host_result_summary_id", "TEXT PRIMARY KEY"⟩, ⟨"work_unit_id", "TEXT NOT NULL"⟩,
        ⟨"run_id", "TEXT NOT NULL"⟩, ⟨"body_json", "TEXT NOT NULL"⟩,
        ⟨"created_at", "TEXT NOT NULL"⟩],
        [⟨"work_unit_id", "work_units", false⟩]⟩,
    .createTable "worker_tokens" true
      ⟨[⟨"token_id", "TEXT PRIMARY KEY"⟩, ⟨"worker_id", "TEXT NOT NULL"⟩,
        ⟨"token_prefix", "TEXT NOT NULL"⟩, ⟨"token_hash", "TEXT NOT NULL"⟩,
        ⟨"created_at", "TEXT NOT NULL"⟩, ⟨"rotated_at", "TEXT"⟩],
        []⟩,
    .createTable "host_tokens" true
      ⟨[⟨"token_id", "TEXT PRIMARY KEY"⟩, ⟨"host_id", "TEXT NOT NULL"⟩,
        ⟨"token_prefix", "TEXT NOT NULL"⟩, ⟨"token_hash", "TEXT NOT NULL"⟩,
        ⟨"created_at", "TEXT NOT NULL"⟩, ⟨"rotated_at", "TEXT"⟩],
        []⟩]

/-- The capacity nodes and their health. -/
def capacityNodes : Migration where
  version := "0002_capacity_nodes"
  statements := [
    .createTable "capacity_nodes" true
      ⟨[⟨"capacity_node_id", "TEXT PRIMARY KEY"⟩, ⟨"node_type", "TEXT NOT NULL"⟩,
        ⟨"status", "TEXT NOT NULL"⟩, ⟨"worker_id", "TEXT NULL"⟩, ⟨"backend_id", "TEXT NULL"⟩,
        ⟨"backend_class", "TEXT NULL"⟩, ⟨"execution_location", "TEXT NOT NULL"⟩,
        ⟨"trust_level", "TEXT NOT NULL"⟩, ⟨"allowed_task_types_json", "TEXT NOT NULL"⟩,
        ⟨"allowed_privacy_levels_json", "TEXT NOT NULL"⟩,
        ⟨"allowed_data_labels_json", "TEXT NOT NULL"⟩, ⟨"backend_ids_json", "TEXT NOT NULL"⟩,
        ⟨"manifest_hash", "TEXT NOT NULL"⟩, ⟨"health_summary_json", "TEXT NOT NULL"⟩,
        ⟨"body_json", "TEXT NOT NULL"⟩, ⟨"created_at", "TEXT NOT NULL"⟩,
        ⟨"updated_at", "TEXT NOT NULL"⟩],
        []⟩,
    .createTable "capacity_node_health_snapshots" true
      ⟨[⟨"snapshot_id", "TEXT PRIMARY KEY"⟩, ⟨"capacity_node_id", "TEXT NOT NULL"⟩,
        ⟨"worker_id", "TEXT NULL"⟩, ⟨"backend_id", "TEXT NULL"⟩, ⟨"status", "TEXT NOT NULL"⟩,
        ⟨"health_json", "TEXT NOT NULL"⟩, ⟨"captured_at", "TEXT NOT NULL"⟩,
        ⟨"body_json", "TEXT NOT NULL"⟩],
        [⟨"capacity_node_id", "capacity_nodes", true⟩]⟩,
    .createIndex "idx_capacity_nodes_status" true
      ⟨"capacity_nodes", ["status"], false⟩,
    .createIndex "idx_capacity_nodes_backend" true
      ⟨"capacity_nodes", ["backend_id"], false⟩,
    .createIndex "idx_capacity_node_health_node" true
      ⟨"capacity_node_health_snapshots", ["capacity_node_id", "captured_at"], false⟩]

/-- The outbox of the event log. -/
def eventOutbox : Migration where
  version := "0003_event_outbox"
  statements := [
    .createTable "event_outbox" true
      ⟨[⟨"event_id", "TEXT PRIMARY KEY"⟩, ⟨"source", "TEXT NOT NULL"⟩, ⟨"type", "TEXT NOT NULL"⟩,
        ⟨"subject", "TEXT NOT NULL"⟩, ⟨"run_id", "TEXT NULL"⟩, ⟨"work_unit_id", "TEXT NULL"⟩,
        ⟨"attempt_id", "TEXT NULL"⟩, ⟨"assignment_id", "TEXT NULL"⟩,
        ⟨"trace_id", "TEXT NOT NULL"⟩, ⟨"span_id", "TEXT NULL"⟩,
        ⟨"status", "TEXT NOT NULL CHECK(status IN ('pending','written','failed'))"⟩,
        ⟨"sequence", "INTEGER NOT NULL"⟩, ⟨"body_json", "TEXT NOT NULL"⟩,
        ⟨"created_at", "TEXT NOT NULL"⟩, ⟨"written_at", "TEXT NULL"⟩,
        ⟨"failure_count", "INTEGER NOT NULL DEFAULT 0"⟩, ⟨"last_error", "TEXT NULL"⟩],
        []⟩,
    .createIndex "idx_event_outbox_sequence" true
      ⟨"event_outbox", ["sequence"], true⟩,
    .createIndex "idx_event_outbox_pending" true
      ⟨"event_outbox", ["status", "sequence"], false⟩,
    .createIndex "idx_event_outbox_work_unit" true
      ⟨"event_outbox", ["work_unit_id"], false⟩]

/-- The columns of the scheduler, and the quarantine of results. -/
def schedulerAssignment : Migration where
  version := "0004_scheduler_assignment"
  statements := [
    .addColumn "execution_attempts" ⟨"attempt_number", "INTEGER NOT NULL DEFAULT 1"⟩,
    .addColumn "execution_attempts" ⟨"started_at", "TEXT NULL"⟩,
    .addColumn "execution_attempts" ⟨"completed_at", "TEXT NULL"⟩,
    .addColumn "assignments" ⟨"capacity_node_id", "TEXT NULL"⟩,
    .addColumn "assignments" ⟨"backend_id", "TEXT NULL"⟩,
    .addColumn "assignments" ⟨"lease_token_hash", "TEXT NULL"⟩,
    .addColumn "assignments" ⟨"lease_token_prefix", "TEXT NULL"⟩,
    .addColumn "assignments" ⟨"lease_version", "INTEGER NOT NULL DEFAULT 0"⟩,
    .addColumn "assignments" ⟨"effective_constraints_json", "TEXT NOT NULL DEFAULT '\x7b\x7d'"⟩,
    .addColumn "assignments" ⟨"assigned_at", "TEXT NULL"⟩,
    .addColumn "assignments" ⟨"lease_expires_at", "TEXT NULL"⟩,
    .addColumn "assignments" ⟨"accepted_at", "TEXT NULL"⟩,
    .addColumn "assignments" ⟨"completed_at", "TEXT NULL"⟩,
    .addColumn "assignments" ⟨"updated_at", "TEXT NULL"⟩,
    .createTable "result_quarantine" true
      ⟨[⟨"quarantine_id", "TEXT PRIMARY KEY"⟩, ⟨"result_envelope_id", "TEXT NULL"⟩,
        ⟨"work_unit_id", "TEXT NOT NULL"⟩, ⟨"attempt_id", "TEXT NOT NULL"⟩,
        ⟨"assignment_id", "TEXT NOT NULL"⟩, ⟨"reason", "TEXT NOT NULL"⟩,
        ⟨"body_json", "TEXT NOT NULL"⟩, ⟨"created_at", "TEXT NOT NULL"⟩],
        [⟨"work_unit_id", "work_units", false⟩, ⟨"attempt_id", "execution_attempts", false⟩,
        ⟨"assignment_id", "assignments", false⟩]⟩,
    .createIndex "idx_execution_attempts_work_unit_attempt" true
      ⟨"execution_attempts", ["work_unit_id", "attempt_number"], false⟩,
    .createIndex "idx_assignments_worker_status" true
      ⟨"assignments", ["worker_id", "status", "assigned_at"], false⟩,
    .createIndex "idx_assignments_attempt" true
      ⟨"assignments", ["attempt_id"], false⟩]

/-- The accounts, the ledger of usage and the receipts. -/
def accountUsageAudit : Migration where
  version := "0005_account_usage_audit"
  statements := [
    .createTable "account_snapshots" true
      ⟨[⟨"account_snapshot_id", "TEXT PRIMARY KEY"⟩, ⟨"provider", "TEXT NOT NULL"⟩,
        ⟨"account_label", "TEXT NOT NULL"⟩, ⟨"status", "TEXT NOT NULL"⟩,
        ⟨"secret_ref", "TEXT NULL"⟩, ⟨"snapshot_hash", "TEXT NOT NULL"⟩,
        ⟨"body_json", "TEXT NOT NULL"⟩, ⟨"created_at", "TEXT NOT NULL"⟩,
        ⟨"updated_at", "TEXT NOT NULL"⟩],
        []⟩,
    .createIndex "idx_account_snapshots_provider_label" true
      ⟨"account_snapshots", ["provider", "account_label"], false⟩,
    .createTable "usage_ledger_entries" true
      ⟨[⟨"usage_ledger_entry_id", "TEXT PRIMARY KEY"⟩, ⟨"work_unit_id", "TEXT NOT NULL"⟩,
        ⟨"run_id", "TEXT NOT NULL"⟩, ⟨"route_plan_id", "TEXT NOT NULL"⟩,
        ⟨"result_envelope_id", "TEXT NOT NULL"⟩, ⟨"verifier_report_id", "TEXT NULL"⟩,
        ⟨"account_snapshot_id", "TEXT NULL"⟩, ⟨"usage_source", "TEXT NOT NULL"⟩,
        ⟨"cost_source", "TEXT NOT NULL"⟩, ⟨"billable_cost_micros", "INTEGER NOT NULL DEFAULT 0"⟩,
        ⟨"entry_hash", "TEXT NOT NULL"⟩, ⟨"body_json", "TEXT NOT NULL"⟩,
        ⟨"created_at", "TEXT NOT NULL"⟩],
        [⟨"work_unit_id", "work_units", false⟩, ⟨"route_plan_id", "route_plans", false⟩,
        ⟨"result_envelope_id", "result_envelopes", false⟩,
        ⟨"verifier_report_id", "verifier_reports", false⟩,
        ⟨"account_snapshot_id", "account_snapshots", false⟩]⟩,
    .createIndex "idx_usage_ledger_entries_work_unit" true
      ⟨"usage_ledger_entries", ["work_unit_id", "created_at"], false⟩,
    .createIndex "idx_usage_ledger_entries_route_plan" true
      ⟨"usage_ledger_entries", ["route_plan_id"], false⟩,
    .createIndex "idx_usage_ledger_entries_source" true
      ⟨"usage_ledger_entries", ["usage_source", "cost_source"], false⟩,
    .createTable "audit_receipts" true
      ⟨[⟨"audit_receipt_id", "TEXT PRIMARY KEY"⟩, ⟨"work_unit_id", "TEXT NOT NULL"⟩,
        ⟨"run_id", "TEXT NOT NULL"⟩, ⟨"route_plan_id", "TEXT NOT NULL"⟩,
        ⟨"result_envelope_id", "TEXT NOT NULL"⟩, ⟨"verifier_report_id", "TEXT NOT NULL"⟩,
        ⟨"usage_ledger_entry_id", "TEXT NULL"⟩, ⟨"receipt_hash", "TEXT NOT NULL"⟩,
        ⟨"previous_receipt_hash", "TEXT NULL"⟩, ⟨"body_json", "TEXT NOT NULL"⟩,
        ⟨"created_at", "TEXT NOT NULL"⟩],
        [⟨"work_unit_id", "work_units", false⟩, ⟨"route_plan_id", "route_plans", false⟩,
        ⟨"result_envelope_id", "result_envelopes", false⟩,
        ⟨"verifier_report_id", "verifier_reports", false⟩,
        ⟨"usage_ledger_entry_id", "usage_ledger_entries", false⟩]⟩,
    .createIndex "idx_audit_receipts_receipt_hash" true
      ⟨"audit_receipts", ["receipt_hash"], true⟩,
    .createIndex "idx_audit_receipts_work_unit" true
      ⟨"audit_receipts", ["work_unit_id", "created_at"], false⟩]

/-- The migration files, in the order of their names. -/
def shipped : List Migration :=
  [init, capacityNodes, eventOutbox, schedulerAssignment, accountUsageAudit]

end Migrations

end TokenBank
